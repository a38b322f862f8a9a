import ServerLink.Failure.System
import ServerLink.Path

/-!
# A tree of files

What a directory holds, as far as watching and launching depend on it.

* `Files` — entries by the names on the way to them; the directory itself is implied, and absolute
  paths start at it.
* `Files.step`, `Files.walk`, `Files.follow` — a path component by component, links being followed.
* `Files.locate` — the place that a path leads to once links are followed, or why it leads nowhere.
* `Files.isFile` — whether a path leads to a file, through links or not.
* `Files.below` — the files of a directory and what is below it, no link being followed.
* `Files.apply` — writing, making, linking, renaming and removing.
-/

namespace ServerLink

/-- What stands in a place. -/
inductive Files.Entry where
  | file (content : Bytes)
  | directory
  | link (target : Path)
deriving DecidableEq, Repr

/-- Whether a link stands in a place. -/
def Files.Entry.isLink : Files.Entry → Bool
  | link _ => true
  | _ => false

/-- The entries of a directory by the names on the way to them. -/
structure Files where
  entries : List (List Bytes × Files.Entry)

namespace Files

/-- An empty directory. -/
def empty : Files := ⟨[]⟩

/-- The path of a place. -/
def pathTo (place : List Bytes) : Path := ⟨Path.slash :: Path.glue place⟩

/-- The entry of a place. -/
def find? (t : Files) (place : List Bytes) : Option Entry :=
  if place.isEmpty then some .directory else t.entries.lookup place

/-- The most bytes that a name may have. -/
def longestName : Nat := 255

/-- The most bytes that a path may have. -/
def longestPath : Nat := 4095

/-- Where one component of a path leads: to a place, or to what a link says. -/
inductive Step where
  | place (place : List Bytes)
  | link (target : Path)

/-- Where a component leads from a place, or why it leads nowhere. -/
def step (t : Files) (place : List Bytes) : Path.Component → Except SystemError Step
  | .root => .ok (.place [])
  | .here => if t.find? place = some .directory then .ok (.place place) else .error .notDirectory
  | .up =>
    if t.find? place = some .directory then .ok (.place place.dropLast) else .error .notDirectory
  | .name n =>
    if t.find? place ≠ some .directory then .error .notDirectory
    else if longestName < n.length then .error .nameTooLong
    else
      match t.find? (place ++ [n]) with
      | none => .error .notFound
      | some (.link target) => .ok (.link target)
      | some _ => .ok (.place (place ++ [n]))

/-- Follows components from a place; at a link, `onLink` goes on with what the link says and the
components behind it. -/
def walk (t : Files)
    (onLink : List Bytes → List Path.Component → Except SystemError (List Bytes)) :
    List Bytes → List Path.Component → Except SystemError (List Bytes)
  | place, [] => .ok place
  | place, c :: rest =>
    match t.step place c with
    | .error e => .error e
    | .ok (.place next) => walk t onLink next rest
    | .ok (.link target) => onLink place (target.components ++ rest)

/-- Follows components from a place through so many links at most. -/
def follow (t : Files) : (links : Nat) → List Bytes → List Path.Component →
    Except SystemError (List Bytes)
  | 0 => walk t fun _ _ => .error .tooManyLinks
  | links + 1 => walk t (follow t links)

/-- How many links a path may lead through. -/
def mostLinks : Nat := 40

/-- Whether a path can only lead to a directory. -/
def asksDirectory (p : Path) : Bool :=
  match (Path.split p.bytes).getLast? with
  | some piece => piece.isEmpty || piece = [Path.dot] || piece = [Path.dot, Path.dot]
  | none => false

/-- The place that a path leads to from a place, or why it leads nowhere. -/
def locate (t : Files) (start : List Bytes) (p : Path) : Except SystemError (List Bytes) :=
  if p.bytes.isEmpty then .error .notFound
  else if longestPath < p.bytes.length then .error .nameTooLong
  else
    match t.follow mostLinks start p.components with
    | .error e => .error e
    | .ok place =>
      if asksDirectory p && t.find? place != some .directory then .error .notDirectory
      else .ok place

/-- The place that a path leads to, if it leads anywhere; the empty path leads to the directory
itself. -/
def resolve? (t : Files) (p : Path) : Option (List Bytes) :=
  (t.follow mostLinks [] p.components).toOption

/-- The content of the file that a path leads to. -/
def content? (t : Files) (p : Path) : Option Bytes :=
  match (t.resolve? p).bind t.find? with
  | some (.file content) => some content
  | _ => none

/-- Whether a path leads to a file; one that can only lead to a directory does not. -/
def isFile (t : Files) (p : Path) : Bool := !asksDirectory p && (t.content? p).isSome

/-- Whether a path names a link. -/
def isLink (t : Files) (p : Path) : Bool :=
  match p.components.getLast? with
  | some (.name n) =>
    match t.follow mostLinks [] p.components.dropLast with
    | .ok place => (t.find? (place ++ [n])).any Entry.isLink
    | .error _ => false
  | _ => false

/-- Whether a path leads to a directory. -/
def isDirectory (t : Files) (p : Path) : Bool := (t.resolve? p).bind t.find? = some .directory

/-- Puts an entry into a place, whatever stood there. -/
def put (t : Files) (place : List Bytes) (e : Entry) : Files :=
  ⟨t.entries.filter (·.1 != place) ++ [(place, e)]⟩

/-- The place of a path whose last component need not exist; directories on the way are made. -/
def reach (t : Files) (p : Path) : Files × List Bytes :=
  let names := p.components.filterMap fun c => match c with
    | .name n => some n
    | _ => none
  let (t, parent) := names.dropLast.foldl (fun (t, place) n =>
    match t.follow mostLinks place [.name n] with
    | .ok next => (t, next)
    | .error _ => (t.put (place ++ [n]) .directory, place ++ [n])) (t, [])
  (t, parent ++ names.getLast?.toList)

/-- A change of the tree. -/
inductive Action where
  | write (path : Path) (content : Bytes)
  | makeDirectory (path : Path)
  | link (path target : Path)
  | rename (path target : Path)
  | remove (path : Path)
  | removeDirectory (path : Path)

/-- The paths that a change touches. -/
def Action.paths : Action → List Path
  | write p _ | makeDirectory p | link p _ | remove p | removeDirectory p => [p]
  | rename p q => [p, q]

/-- The tree without a place and all below it. -/
def without (t : Files) (place : List Bytes) : Files :=
  ⟨t.entries.filter fun e => !place.isPrefixOf e.1⟩

/-- Makes a change. -/
def apply (t : Files) : Action → Files
  | .write p content =>
    let (t, place) := t.reach p
    t.put ((t.resolve? p).getD place) (.file content)
  | .makeDirectory p =>
    let (t, place) := t.reach p
    if (t.find? place).isSome then t else t.put place .directory
  | .link p target =>
    let (t, place) := t.reach p
    t.put place (.link target)
  | .rename p q =>
    let (t, source) := t.reach p
    let (t, place) := t.reach q
    let moved := t.entries.filterMap fun e =>
      if source.isPrefixOf e.1 then some (place ++ e.1.drop source.length, e.2) else none
    ⟨((t.without source).without place).entries ++ moved⟩
  | .remove p | .removeDirectory p =>
    let (t, place) := t.reach p
    t.without place

/-- Makes changes one after another. -/
def applyAll (t : Files) (actions : List Action) : Files := actions.foldl apply t

/-- The files below a directory with the names on the way to them; links below it are no files.  A
path that is itself a file has no names to go. -/
def below (t : Files) (root : Path) : List (List Bytes) :=
  let files (place : List Bytes) := t.entries.filterMap fun e => match e.2 with
    | .file _ => if place.isPrefixOf e.1 then some (e.1.drop place.length) else none
    | _ => none
  match t.resolve? root with
  | none => []
  | some place =>
    match t.find? place with
    | some .directory => files place
    | some (.file _) => if t.isFile root && !t.isLink root then [[]] else []
    | _ => []

end Files

end ServerLink
