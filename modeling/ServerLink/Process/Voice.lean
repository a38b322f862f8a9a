import ServerLink.Process.Pipe
import ServerLink.Text.Blank

/-!
# What a child says on its standard error

Beside a child may work a **listener**: it reads the child's standard error as it comes, cuts it
into lines and hands the lines on.  Nobody else reads it.

* `Ear` — whether there is a listener, and how far it is.
* `Voice` — a child's standard error: what was said, read, handed on and lost.
* `Voice.Move` — what can happen, and `Voice.move?` — a move, when it can happen.
* `Voice.listenerMove?` — what the listener does next.

Where there is no listener the stream is closed on this side, and whatever the child says is lost.
The same happens once a listener has come upon a line that is no text.
-/

namespace ServerLink.Process

/-- The listener to a child's standard error. -/
inductive Ear where
  /-- There never was one. -/
  | absent
  | listening
  /-- It has read to the end. -/
  | finished
  /-- It came upon a line that is no text, or the stream could not be read. -/
  | broken
  /-- It was stopped when the child was given up. -/
  | silenced
deriving DecidableEq, Repr

/-- The standard error of a child. -/
structure Voice where
  pid : Nat
  ear : Ear
  /-- Whether what is heard is handed on. -/
  shown : Bool
  /-- Whether the child may say more. -/
  isOpen : Bool
  /-- What was said and nobody has read yet. -/
  waiting : Bytes
  /-- What was read and is not yet handed on. -/
  begun : Bytes
  /-- All that was read. -/
  taken : Bytes
  /-- What was said where nobody listened. -/
  lost : Bytes
  /-- The lines that were handed on. -/
  lines : List String
deriving DecidableEq, Repr

namespace Voice

/-- What can happen to the standard error of a child. -/
inductive Move where
  /-- The child says something. -/
  | say (bytes : Bytes)
  /-- The child says nothing more. -/
  | endSpeech
  /-- The listener reads. -/
  | read (count : Nat)
  /-- The listener hands a whole line on. -/
  | line
  /-- The listener finds the end, and hands on what is left before that. -/
  | finish
  /-- The listener cannot read the stream. -/
  | failRead
deriving DecidableEq, Repr

/-- A child that was just launched, which is listened to or not. -/
def start (pid : Nat) (heard shown : Bool) : Voice :=
  ⟨pid, if heard then .listening else .absent, shown, true, [], [], [], [], []⟩

/-- Whether someone listens. -/
def isHeard (v : Voice) : Bool := v.ear = .listening

/-- The byte at which lines end. -/
def lineEnd : UInt8 := 0x0A

/-- A line without the white space at its end. -/
def lineText? (line : Bytes) : Option String :=
  (Utf8.decode? line).map fun cs => String.ofList (Text.trimRight cs)

/-- The bytes up to and with the first end of a line, and those after it. -/
def cutLine (bytes : Bytes) : Bytes × Bytes :=
  let line := bytes.takeWhile (· != lineEnd)
  (line ++ (bytes.drop line.length).take 1, bytes.drop (line.length + 1))

/-- The listener has a line of what was read, with the rest behind it.  Blank lines are passed
over. -/
def hand (v : Voice) (line rest : Bytes) : Voice :=
  match lineText? line with
  | none => { v with begun := rest, ear := .broken }
  | some "" => { v with begun := rest }
  | some text => { v with begun := rest, lines := if v.shown then v.lines ++ [text] else v.lines }

/-- The listener is stopped. -/
def silence (v : Voice) : Voice :=
  match v.ear with
  | .listening => { v with ear := .silenced }
  | _ => v

/-- A move, when it can happen. -/
def move? (v : Voice) : Move → Option Voice
  | .say bytes =>
    if !v.isOpen then none
    else if v.isHeard then some { v with waiting := v.waiting ++ bytes }
    else some { v with lost := v.lost ++ bytes }
  | .endSpeech => if v.isOpen then some { v with isOpen := false } else none
  | .read count =>
    if v.isHeard && !v.begun.contains lineEnd && 0 < count && count ≤ v.waiting.length then
      let chunk := v.waiting.take count
      some { v with
        waiting := v.waiting.drop count
        begun := v.begun ++ chunk
        taken := v.taken ++ chunk }
    else none
  | .line =>
    if v.isHeard && v.begun.contains lineEnd then
      let (line, rest) := cutLine v.begun
      some (v.hand line rest)
    else none
  | .finish =>
    if v.isHeard && !v.begun.contains lineEnd && v.waiting.isEmpty && !v.isOpen then
      some (if v.begun.isEmpty then { v with ear := .finished } else v.hand v.begun [])
    else none
  | .failRead => if v.isHeard then some { v with ear := .broken } else none

/-- What the listener does next. -/
def listenerMove? (v : Voice) : Option Move :=
  if !v.isHeard then none
  else if v.begun.contains lineEnd then some .line
  else if !v.waiting.isEmpty then some (.read v.waiting.length)
  else if !v.isOpen then some .finish
  else none

end Voice

end ServerLink.Process
