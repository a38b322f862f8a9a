import ServerLink.Json.Reader
import ServerLink.Watch

/-!
# What a server has received, in short

* `Kinds` — the kinds of the events of each file, in order; a mere change that follows another event
  of the same file says nothing new and is left out.
* `Entry` — a message, the opening of the handshake, or a run of messages about watched files.
* `Journal.read` — the entries of messages.
-/

namespace ServerLink.Rehearsal

/-- The kinds of the events of each file, in order. -/
abbrev Kinds := List (String × List Watch.Kind)

/-- One more event of a file. -/
def Kinds.add (k : Kinds) (name : String) (kind : Watch.Kind) : Kinds :=
  match k.lookup name with
  | none => k ++ [(name, [kind])]
  | some kinds =>
    if kind = .changed then k
    else k.map fun e => if e.1 = name then (name, kinds ++ [kind]) else e

/-- The kinds of changes. -/
def Kinds.ofChanges (changes : List Watch.Change) : Kinds :=
  changes.foldl (fun k c => k.add c.path.display c.kind) []

namespace Journal

/-- A piece of what a server has received. -/
inductive Entry where
  | opening (id params : Json)
  | watched (k : Kinds)
  | other (text : String)

/-- The method of messages about watched files. -/
def watchedMethod : String := "workspace/didChangeWatchedFiles"

/-- The kind of a number on the wire. -/
def kindOf (v : Option Json) : Watch.Kind :=
  match v with
  | some (.int 1) => .created
  | some (.int 3) => .deleted
  | _ => .changed

/-- The events of a message about watched files. -/
def events (k : Kinds) (params : Json) : Kinds :=
  (((params.field? "changes").bind Json.arr?).getD []).foldl (fun k c =>
    k.add (((c.field? "uri").bind Json.str?).getD "") (kindOf (c.field? "type"))) k

/-- The method and the parameters of a message. -/
def parts (line : String) : String × Json × Json :=
  match Json.parse line with
  | .ok v => (((v.field? "method").bind Json.str?).getD "", (v.field? "id").getD .null,
      (v.field? "params").getD .null)
  | .error _ => ("", .null, .null)

/-- Closes a run of messages about watched files. -/
def closed (run : Option Kinds) : List Entry := run.toList.map .watched

/-- The entries of messages, after a run of messages about watched files that may have begun. -/
def readAfter (run : Option Kinds) : List String → List Entry
  | [] => closed run
  | line :: rest =>
    let (method, id, params) := parts line
    if method = watchedMethod then readAfter (some (events (run.getD []) params)) rest
    else if method = "initialize" then closed run ++ .opening id params :: readAfter none rest
    else closed run ++ .other line :: readAfter none rest

/-- The entries of messages. -/
def read (lines : List String) : List Entry := readAfter none lines

/-- Whether a message about watched files holds a text. -/
def tellsOf (needle line : String) : Bool :=
  1 < (line.splitOn watchedMethod).length && 1 < (line.splitOn needle).length

end Journal

end ServerLink.Rehearsal
