import ServerLink.CommandLine.Fault
import ServerLink.Text.Decimal
import ServerLink.Text.Similar

/-!
# Reading a command line

Arguments are read one after another.  A switch that takes a value is **pending** until its value
has come and been looked at, which happens only when the next switch is met or the arguments end; so
an argument that nobody expects is reported before a bad value in front of it.

* `Options` — what a command line asks for.
* `Reading` — what has been read so far.
* `read` — the options, a text to be shown instead, or what is wrong.
-/

namespace ServerLink.CommandLine

/-- What a command line asks for. -/
structure Options where
  workspace : Option Path
  interpreter : Option Path
  disabled : List String
  logLevel : Option String
  logFile : Option Path
  startSeconds : Option Nat
deriving DecidableEq, Repr

/-- What a command line comes to. -/
inductive Outcome where
  | run (o : Options)
  | tell (text : String)
  | refuse (f : Fault)

/-- What has been read so far. -/
structure Reading where
  /-- The switches met, in order, each with its values. -/
  given : List (Switch × List Bytes)
  /-- A switch that is pending, and its value if it has come. -/
  pending : Option (Switch × Option Bytes)
  /-- Whether no switch is expected any more. -/
  closed : Bool

/-- What comes of one more argument. -/
inductive Step where
  | next (r : Reading)
  | stop (o : Outcome)

/-! ## Values -/

/-- The number of a run of digits below a bound, with the number read before it. -/
def readDigits (bound : Nat) : Nat → List Char → Except NumberFault Nat
  | n, [] => .ok n
  | n, c :: rest =>
    match Decimal.digit? c with
    | none => .error .badDigit
    | some d => if n * 10 + d < bound then readDigits bound (n * 10 + d) rest else .error .tooLarge

/-- A number of 64 bits; a plus sign may stand in front. -/
def readNumber (s : String) : Except NumberFault Nat :=
  match s.toList with
  | [] => .error .empty
  | '+' :: [] => .error .badDigit
  | '+' :: digits | digits => readDigits Decimal.limit64 0 digits

/-- What is wrong with a value. -/
def valueFault? (s : Switch) (value : Bytes) : Option Fault :=
  match s with
  | .workspace | .interpreter | .logFile => if value.isEmpty then some (.missing s) else none
  | .startTimeout =>
    match Utf8.toString? value with
    | none => some .noText
    | some text =>
      match readNumber text with
      | .error f => some (.badNumber text s f)
      | .ok _ => none
  | _ => if (Utf8.toString? value).isNone then some .noText else none

/-! ## Switches -/

namespace Reading

/-- Nothing has been read. -/
def start : Reading := ⟨[], none, false⟩

/-- The switches met. -/
def used (r : Reading) : List Switch := r.given.map (·.1)

/-- Whether a switch was met. -/
def has (r : Reading) (s : Switch) : Bool := r.used.contains s

/-- Meets a switch with some values. -/
def meet (r : Reading) (s : Switch) (values : List Bytes) : Reading :=
  if r.has s then
    { r with given := r.given.map fun e => if e.1 = s then (s, e.2 ++ values) else e }
  else { r with given := r.given ++ [(s, values)] }

/-- Takes a value for a switch: what has been read then, and what is wrong. -/
def takeValue (r : Reading) (s : Switch) : Option Bytes → Reading × Option Fault
  | none => (r, some (.missing s))
  | some value =>
    if r.has s && !s.repeats then
      ({ r with given := r.given.filter (·.1 != s) }, some (.repeated s))
    else
      match valueFault? s value with
      | some f => (r.meet s [], some f)
      | none => (r.meet s [value], none)

/-- Looks at the pending switch. -/
def settle (r : Reading) : Reading × Option Fault :=
  match r.pending with
  | none => (r, none)
  | some (s, value) => { r with pending := none }.takeValue s value

/-- Goes on once the pending switch is settled. -/
def afterwards (r : Reading) (next : Reading → Step) : Step :=
  match r.settle with
  | (_, some f) => .stop (.refuse f)
  | (r, none) => next r

/-- What stands in no relation to the switches. -/
def unexpected (argument : String) : Step := .stop (.refuse (.unexpected argument none []))

/-- Meets a word that no switch has.  The pending switch is looked at, whatever comes of it. -/
def unknown (r : Reading) (word : String) : Step :=
  let r := r.settle.1
  let similar := (Similar.best? word (Switch.all.map (·.word))).bind Switch.ofWord?
  let used := match similar with
    | some s => (r.meet s []).used
    | none => r.used
  .stop (.refuse (.unexpected ("--" ++ word) similar used))

/-- Meets a switch that only asks for a text. -/
def inquire (r : Reading) (s : Switch) : Step :=
  r.afterwards fun _ => .stop (.tell (if s = .help then helpText else versionText))

/-- Meets the word of a switch, with the value after its equals sign. -/
def readWord (r : Reading) (word : Bytes) (value : Option Bytes) : Step :=
  match (Utf8.toString? word).bind Switch.ofWord?, value with
  | none, _ => r.unknown (Utf8.toStringLossy word)
  | some s, some v =>
    if s.takesValue then
      r.afterwards fun r =>
        match r.takeValue s (some v) with
        | (_, some f) => .stop (.refuse f)
        | (r, none) => .next r
    else .stop (.refuse (.excess (Utf8.toStringLossy v) s (r.used ++ [s])))
  | some s, none =>
    if s.takesValue then r.afterwards fun r => .next { r with pending := some (s, none) }
    else r.inquire s

/-- Meets letters after a dash; the first one decides. -/
def readLetters (r : Reading) (letters : Bytes) : Step :=
  let text := Utf8.decodeLossy letters
  let first := if Utf8.validLength letters = 0 then text else text.take 1
  match first with
  | [c] =>
    match Switch.ofLetter? c with
    | some s => r.inquire s
    | none => unexpected ("-" ++ String.singleton c)
  | _ => unexpected ("-" ++ String.ofList first)

/-- Meets an argument that is no switch. -/
def readPlain (r : Reading) (a : Bytes) : Step :=
  match r.pending with
  | some (s, none) => .next { r with pending := some (s, some a) }
  | _ => unexpected (Utf8.toStringLossy a)

/-- The dash. -/
def dash : UInt8 := 45

/-- The equals sign. -/
def equalsSign : UInt8 := 61

/-- Reads one more argument. -/
def readArgument (r : Reading) (a : Bytes) : Step :=
  if r.closed then unexpected (Utf8.toStringLossy a)
  else
    match a with
    | [x, y] =>
      if x = dash && y = dash then .next { r with closed := true }
      else if x = dash then r.readLetters [y]
      else r.readPlain a
    | x :: y :: rest =>
      if x = dash && y = dash then
        let word := rest.takeWhile (· != equalsSign)
        let value := rest.drop word.length
        r.readWord word (if value.isEmpty then none else some (value.drop 1))
      else if x = dash then r.readLetters (y :: rest)
      else r.readPlain a
    | _ => r.readPlain a

/-! ## The whole line -/

/-- The last value of a switch. -/
def value? (r : Reading) (s : Switch) : Option Bytes := (r.given.lookup s).bind List.getLast?

/-- The last value of a switch as text. -/
def text? (r : Reading) (s : Switch) : Option String := (r.value? s).map Utf8.toStringLossy

/-- What has been asked for. -/
def options (r : Reading) : Options :=
  { workspace := (r.value? .workspace).map Path.mk
    interpreter := (r.value? .interpreter).map Path.mk
    disabled := ((r.given.lookup .disableExtension).getD []).map Utf8.toStringLossy
    logLevel := r.text? .logLevel
    logFile := (r.value? .logFile).map Path.mk
    startSeconds := (r.text? .startTimeout).bind fun s => (readNumber s).toOption }

/-- Reads the arguments that are left. -/
def readAll (r : Reading) : List Bytes → Outcome
  | [] =>
    match r.settle with
    | (_, some f) => .refuse f
    | (r, none) => .run r.options
  | a :: rest =>
    match r.readArgument a with
    | .stop o => o
    | .next r => readAll r rest

end Reading

/-- Reads a command line. -/
def read (arguments : List Bytes) : Outcome := Reading.start.readAll arguments

end ServerLink.CommandLine
