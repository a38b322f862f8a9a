import ServerLink.CommandLine.Switch

/-!
# Faults of the command line

* `Fault` — what is wrong with a command line.
* `Fault.text` — what the user is told.
-/

namespace ServerLink.CommandLine

/-- What is wrong with a number. -/
inductive NumberFault where
  | empty
  | badDigit
  | tooLarge
deriving DecidableEq, Repr

/-- The wording of a faulty number. -/
def NumberFault.message : NumberFault → String
  | empty => "cannot parse integer from empty string"
  | badDigit => "invalid digit found in string"
  | tooLarge => "number too large to fit in target type"

/-- What is wrong with a command line. -/
inductive Fault where
  /-- There is no such switch, or nothing to which an argument could belong.  A switch that looks
  like it comes along, and the switches in use, that one included. -/
  | unexpected (argument : String) (similar : Option Switch) (used : List Switch)
  /-- A switch that takes no value was given one. -/
  | excess (value : String) (s : Switch) (used : List Switch)
  /-- A switch has no value, or an empty one that is none. -/
  | missing (s : Switch)
  /-- A value is no number. -/
  | badNumber (value : String) (s : Switch) (fault : NumberFault)
  /-- A switch was given more than once. -/
  | repeated (s : Switch)
  /-- A value is no text. -/
  | noText
deriving DecidableEq, Repr

namespace Fault

/-- What is wrong, in one sentence. -/
def sentence : Fault → String
  | unexpected argument _ _ => "unexpected argument '" ++ argument ++ "' found"
  | excess value s _ =>
    "unexpected value '" ++ value ++ "' for '" ++ s.text ++ "' found; no more were expected"
  | missing s => "a value is required for '" ++ s.text ++ "' but none was supplied"
  | badNumber value s fault =>
    "invalid value '" ++ value ++ "' for '" ++ s.text ++ "': " ++ fault.message
  | repeated s => "the argument '" ++ s.text ++ "' cannot be used multiple times"
  | noText => "invalid UTF-8 was detected in one or more arguments"

/-- The paragraphs between the sentence and the hint at the help. -/
def paragraphs : Fault → List String
  | unexpected _ similar used =>
    (similar.map fun s => "  tip: a similar argument exists: '--" ++ s.word ++ "'").toList
      ++ [usage used]
  | excess _ _ used => [usage used]
  | missing _ | badNumber _ _ _ => []
  | repeated _ | noText => [usage []]

/-- What the user is told. -/
def text (f : Fault) : String :=
  "\n\n".intercalate (("error: " ++ f.sentence) :: f.paragraphs
    ++ ["For more information, try '--help'."]) ++ "\n"

end Fault

end ServerLink.CommandLine
