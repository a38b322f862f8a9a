import ServerLink.Files

/-!
# Launching a program

What a machine has to say about a launch before the program runs.

* `Machine` — its files, which of them may be run, and where bare names are searched.
* `Machine.launch` — the place of the program that a launch runs, or why it fails.

A launch first enters the directory it is to run in, and only then looks for the program, so a
relative command is seen from that directory.
-/

namespace ServerLink

/-- A machine, as far as launches depend on it. -/
structure Machine where
  /-- All files from the root. -/
  files : Files
  /-- The places of the files that may be run. -/
  runnable : List (List Bytes)
  /-- The directories in which bare names are searched. -/
  search : List Path
  /-- The directory in which launches run that name none. -/
  home : Path

namespace Machine

/-- Runs what stands at a place: only files that may be run can be. -/
def permit (m : Machine) (place : List Bytes) : Except SystemError (List Bytes) :=
  if m.runnable.contains place then .ok place else .error .denied

/-- The program at a path seen from a place. -/
def programAt (m : Machine) (start : List Bytes) (p : Path) : Except SystemError (List Bytes) :=
  match m.files.locate start p with
  | .error e => .error e
  | .ok place => m.permit place

/-- Searches a bare name.  A match that may not be run is passed over, and named as the reason if
nothing better follows. -/
def searched (m : Machine) (start : List Bytes) (name : Path) (denied : Bool) :
    List Path → Except SystemError (List Bytes)
  | [] => .error (if denied then .denied else .notFound)
  | d :: rest =>
    match m.programAt start (d.join name) with
    | .ok place => .ok place
    | .error e => m.searched start name (denied || e = .denied) rest

/-- Whether a command is a bare name. -/
def isBare (command : Path) : Bool := !command.bytes.contains Path.slash

/-- The program that a command names, seen from a place. -/
def find (m : Machine) (start : List Bytes) (command : Path) : Except SystemError (List Bytes) :=
  if !isBare command then m.programAt start command
  else if command.bytes.isEmpty then .error .notFound
  else if Files.longestName < command.bytes.length then .error .nameTooLong
  else m.searched start command false m.search

/-- Whether a text can be handed to the system. -/
def isClean (bytes : Bytes) : Bool := !bytes.contains 0

/-- The place of a directory to run in. -/
def enter (m : Machine) (directory : Option Path) : Except SystemError (List Bytes) :=
  match m.files.locate [] (m.home.join (directory.getD ⟨[]⟩)) with
  | .error e => .error e
  | .ok place => if m.files.find? place = some .directory then .ok place else .error .notDirectory

/-- The place of the program that a launch runs, or why it fails. -/
def launch (m : Machine) (command : Path) (arguments : List Bytes) (directory : Option Path) :
    Except SystemError (List Bytes) :=
  if !(command.bytes :: arguments).all isClean || !(directory.all fun d => isClean d.bytes) then
    .error .zeroByte
  else
    match m.enter directory with
    | .error e => .error e
    | .ok start => m.find start command

end Machine

end ServerLink
