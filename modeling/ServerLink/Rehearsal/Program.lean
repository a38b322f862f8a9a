import ServerLink.Path
import ServerLink.Process.Pipe

/-!
# Programs for rehearsals

A rehearsal works a run out without starting anything.  The programs it needs are lists of **acts**
on the three standard streams.

* `Act`, `Program` — what a program does, in order.
* `Program.cat`, `sleep`, `echo`, `head` — the programs that a rehearsal knows by name.
* `Player` — a program under way, with the pipe it stands behind.
-/

namespace ServerLink.Rehearsal

open Process

/-- What a program does. -/
inductive Act where
  /-- It writes to its output. -/
  | say (bytes : Bytes)
  /-- It writes to its standard error. -/
  | complain (bytes : Bytes)
  /-- It copies its input to its output until the input ends. -/
  | copy
  /-- It reads its input to the end. -/
  | drain
  /-- It does nothing for some milliseconds. -/
  | pause (time : Nat)
  /-- It never does anything again. -/
  | linger
  /-- It is gone, with a code or without one. -/
  | leave (code : Option Nat)

/-- What a program does, in order; at its end it leaves with code zero. -/
abbrev Program := List Act

/-- What a program sees of the files around it. -/
abbrev Surroundings := Path → Option Bytes

namespace Program

/-- Writes a text. -/
def utters (s : String) : Act := .say (Utf8.ofString s)

/-- Writes a text to standard error. -/
def complains (s : String) : Act := .complain (Utf8.ofString s)

/-! ## Well-known programs -/

/-- Copies files to the output, or the input when none is given. -/
def cat (files : Surroundings) (arguments : List Bytes) : List Act × Nat :=
  if arguments.isEmpty then ([.copy], 0)
  else
    arguments.foldl (fun (acts, status) a =>
      if a = Utf8.ofString "-" then (acts ++ [.copy], status)
      else
        match files ⟨a⟩ with
        | some content => (acts ++ [.say content], status)
        | none =>
          let absent := "cat: " ++ Utf8.toStringLossy a ++ ": No such file or directory\n"
          (acts ++ [complains absent], 1))
      ([], 0)

/-- A time in seconds as milliseconds; parts of a second may follow a dot. -/
def sleepTime? (text : List Char) : Option Nat :=
  let whole := text.takeWhile (· != '.')
  let rest := (text.dropWhile (· != '.')).drop 1
  match Decimal.natBelow? Decimal.limit32 whole,
    Decimal.natBelow? 1000 ((rest ++ ['0', '0', '0']).take 3) with
  | some s, some ms => some (s * 1000 + ms)
  | none, some ms => if whole.isEmpty && !rest.isEmpty then some ms else none
  | _, none => none

/-- Sleeps for the times given. -/
def sleep (arguments : List Bytes) : List Act × Nat :=
  match arguments.mapM fun a => (Utf8.toString? a).bind fun s => sleepTime? s.toList with
  | some (t :: ts) => ([.pause ((t :: ts).foldl (· + ·) 0)], 0)
  | some [] => ([complains "sleep: missing operand\nTry 'sleep --help' for more information.\n"], 1)
  | none => ([complains "sleep: invalid time interval\n"], 1)

/-- The arguments with spaces between them. -/
def echo (arguments : List Bytes) : List Act × Nat :=
  ([.say ([0x20].intercalate arguments ++ [0x0A])], 0)

/-- The first bytes of files without end. -/
def head (files : Surroundings) (arguments : List Bytes) : List Act × Nat :=
  let number? (b : Bytes) :=
    (Utf8.toString? b).bind fun s => Decimal.natBelow? Decimal.limit32 s.toList
  match arguments with
  | [option, count, file] =>
    match number? count with
    | some n =>
      if option != Utf8.ofString "-c" then ([], 1)
      else if file = Utf8.ofString "/dev/zero" then ([.say (List.replicate n 0)], 0)
      else
        match files ⟨file⟩ with
        | some content => ([.say (content.take n)], 0)
        | none => ([complains "head: cannot open the file for reading\n"], 1)
    | none => ([], 1)
  | _ => ([], 1)

end Program

/-! ## A program under way -/

/-- A program under way behind its pipe. -/
structure Player where
  pid : Nat
  acts : Program
  pipe : Pipe

namespace Player

/-- A program that has just begun. -/
def start (pid : Nat) (acts : Program) : Player := ⟨pid, acts, .start⟩

/-- Whether the input of a program has ended for good. -/
def inputEnded (p : Player) : Bool := !p.pipe.inputOpen && p.pipe.input.isEmpty

/-- The end of a program, when it has come to it. -/
def leaving? (p : Player) : Option (Option Nat) :=
  match p.acts with
  | [] => some (some 0)
  | .leave code :: _ => some code
  | _ => none

/-- The next act on input and output, when nothing has to be waited for. -/
def act? (p : Player) : Option Player :=
  match p.acts with
  | .say bytes :: rest => some { p with acts := rest, pipe := p.pipe.move (.put bytes) }
  | .copy :: rest =>
    let input := p.pipe.input
    if !input.isEmpty then
      some { p with pipe := (p.pipe.move (.take input.length)).move (.put input) }
    else if p.inputEnded then some { p with acts := rest }
    else none
  | .drain :: rest =>
    let input := p.pipe.input
    if !input.isEmpty then some { p with pipe := p.pipe.move (.take input.length) }
    else if p.inputEnded then some { p with acts := rest }
    else none
  | .pause 0 :: rest => some { p with acts := rest }
  | _ => none

/-- How long a program still does nothing, when it only lets time pass. -/
def pausing? (p : Player) : Option Nat :=
  match p.acts with
  | .pause time :: _ => some time
  | _ => none

/-- A program after some time. -/
def passed (time : Nat) (p : Player) : Player :=
  match p.acts with
  | .pause t :: rest => { p with acts := .pause (t - time) :: rest }
  | _ => p

end Player

end ServerLink.Rehearsal
