import ServerLink.Process.Machine
import ServerLink.Rehearsal.Shell

/-!
# The site of a rehearsal

A small machine with a directory of its own for each rehearsal.

* `Site.root` — that directory.
* `Site.machine` — the machine with some files in the directory.
* `Site.programAt` — what a program of the machine does.
* `Site.masked`, `Site.unmasked` — texts with marks for the directories, and back.
-/

namespace ServerLink.Rehearsal.Site

open ServerLink.Path (ofString)

/-- The name of the directory of a rehearsal. -/
def rootName : String := ".tmpROOT00"

/-- The directory of a rehearsal. -/
def root : Path := ofString ("/tmp/" ++ rootName)

/-- The name of the directory of the server's program. -/
def serverName : String := ".tmpSERVER"

/-- The directory of the server's program. -/
def serverDirectory : Path := ofString ("/tmp/" ++ serverName)

/-- The names on the way to a place. -/
def place (names : List String) : List Bytes := names.map Utf8.ofString

/-- The directories of every machine. -/
def directories : List (List String) :=
  [["bin"], ["dev"], ["etc"], ["home"], ["proc"], ["root"], ["tmp"], ["usr"], ["usr", "bin"],
    ["usr", "lib"], ["var"], ["tmp", rootName], ["tmp", serverName]]

/-- The places of the programs. -/
def programs : List (List Bytes) :=
  (Shell.programNames.map fun n => place ["usr", "bin", n])
    ++ (Shell.programNames.map fun n => place ["bin", n])

/-- The files of every machine. -/
def files : Files :=
  ⟨(directories.map fun d => (place d, Files.Entry.directory))
    ++ ([["etc", "passwd"], ["etc", "hosts"], ["dev", "null"], ["dev", "zero"]].map fun f =>
        (place f, Files.Entry.file []))
    ++ (programs.map fun p => (p, Files.Entry.file []))⟩

/-- A change seen from the directory of a rehearsal. -/
def inRoot : Files.Action → Files.Action
  | .write p content => .write (root.join p) content
  | .makeDirectory p => .makeDirectory (root.join p)
  | .link p target => .link (root.join p) target
  | .rename p q => .rename (root.join p) (root.join q)
  | .remove p => .remove (root.join p)
  | .removeDirectory p => .removeDirectory (root.join p)

/-- The machine after some changes in the directory of a rehearsal. -/
def machine (actions : List Files.Action) : Machine :=
  { files := files.applyAll (actions.map inRoot)
    runnable := programs
    search := [ofString "/usr/bin", ofString "/bin"]
    home := ofString "/home" }

/-- What the program at a place does. -/
def programAt (m : Machine) (place : List Bytes) (arguments : List Bytes) (directory : Path) :
    Program :=
  Shell.standalone ⟨arguments, directory, fun p => m.files.content? (directory.join p)⟩
    (place.getLast?.getD [])

/-- The directories and the marks that stand for them; a mark of its own stands for a last name. -/
def marks : List (String × String) :=
  [(root.display, "$ROOT"), (serverDirectory.display, "$SERVER"), (rootName, "$ROOT_NAME"),
    (serverName, "$SERVER_NAME")]

/-- A text with marks for the directories. -/
def masked (s : String) : String := marks.foldl (fun s (name, mark) => s.replace name mark) s

/-- A text with the directories for their marks. -/
def unmasked (s : String) : String :=
  (s.replace "$ROOT" root.display).replace "$SERVER" serverDirectory.display

end ServerLink.Rehearsal.Site
