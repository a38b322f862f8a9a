import ServerLink.Failure.Link
import ServerLink.Log

/-!
# Providers of an environment

A provider knows which interpreter the user works with.

* `Variables` — what the process environment says.
* `detectInterpreter` — the interpreter that the environment points to, and the variables asked.
* `Provider` — the built-in one, which takes a **snapshot** when it is first activated and keeps it,
  and those of other extensions.
* `Conduct` — what a provider of another extension does, time after time.
* `Question`, `Answer`, `Provider.ask` — what a provider can be asked, and what it says.
* `Happening`, `Provider.after` — a provider while the process environment changes around it.
-/

namespace ServerLink

/-- The variables of the process environment. -/
abbrev Variables := List (String × Bytes)

namespace Environment

/-- The variables that name an environment, in the order in which they are asked. -/
def environmentVariables : List String := ["VIRTUAL_ENV", "CONDA_PREFIX"]

/-- The interpreter of an environment in a directory. -/
def interpreterIn (directory : Path) : Path :=
  (directory.join (.ofString "bin")).join (.ofString "python")

/-- Asks variables in turn until one has a value that is not empty. -/
def firstSet (lookup : String → Option Bytes) : List String → Option Bytes × List String
  | [] => (none, [])
  | name :: rest =>
    match lookup name with
    | some (b :: bs) => (some (b :: bs), [name])
    | _ =>
      let (value, asked) := firstSet lookup rest
      (value, name :: asked)

/-- The interpreter in use: one that is given, or that of the first variable that is set.  With it
come the variables that were asked. -/
def detectInterpreter (given : Option Path) (lookup : String → Option Bytes) :
    Option Path × List String :=
  match given with
  | some p => (some p, [])
  | none =>
    let (value, asked) := firstSet lookup environmentVariables
    (value.map fun v => interpreterIn ⟨v⟩, asked)

/-- What a provider of another extension does: whether it is active, how each of its activations
fails if it does, and what it says each time when it is asked for the path. -/
structure Conduct where
  active : Bool
  activations : Nat → Option DiscoveryError
  paths : Nat → Except DiscoveryError (Option Path)

namespace Conduct

/-- Always the same. -/
def steady (active : Bool) (activation : Option DiscoveryError)
    (answer : Except DiscoveryError (Option Path)) : Conduct :=
  ⟨active, fun _ => activation, fun _ => answer⟩

/-- What is left after an activation; one that succeeds makes the provider active. -/
def activated (c : Conduct) : Conduct :=
  ⟨c.active || (c.activations 0).isNone, fun n => c.activations (n + 1), c.paths⟩

/-- What is left after a question for the path. -/
def pathAsked (c : Conduct) : Conduct := { c with paths := fun n => c.paths (n + 1) }

end Conduct

/-- A provider of an environment. -/
inductive Provider where
  /-- The built-in one: an interpreter given to it, and its snapshot once it is active. -/
  | builtIn (given : Option Path) (snapshot : Option (Option Path))
  /-- One of another extension, and what it is going to do. -/
  | foreign (conduct : Conduct)

/-- A question to a provider. -/
inductive Question where
  | isActive
  | activate
  | path
deriving DecidableEq, Repr

/-- The name of a question. -/
def Question.text : Question → String
  | isActive => "is_active"
  | activate => "activate"
  | path => "path"

/-- What a provider says when it is asked. -/
inductive Answer where
  | isActive (active : Bool)
  | activate (failure : Option DiscoveryError)
  | path (found : Except DiscoveryError (Option Path))

/-- The question to which something is an answer. -/
def Answer.question : Answer → Question
  | isActive _ => .isActive
  | activate _ => .activate
  | path _ => .path

namespace Provider

/-- A provider of another extension that always does the same. -/
def extension (active : Bool) (activation : Option DiscoveryError)
    (answer : Except DiscoveryError (Option Path)) : Provider :=
  .foreign (.steady active activation answer)

/-- Whether a provider is active. -/
def isActive : Provider → Bool
  | builtIn _ snapshot => snapshot.isSome
  | foreign c => c.active

/-- Activates a provider: the provider after it, and why it failed if it did. -/
def activate (vars : Variables) : Provider → Provider × Option DiscoveryError
  | builtIn given none =>
    (builtIn given (some (detectInterpreter given (fun name => List.lookup name vars)).1), none)
  | builtIn given (some snapshot) => (builtIn given (some snapshot), none)
  | foreign c => (foreign c.activated, c.activations 0)

/-- A line of the built-in provider. -/
def note (line : Log.Line) : Log.Shown := .line Log.providerTarget line

/-- What the search for the interpreter shows. -/
def searchNotes (given : Option Path) (lookup : String → Option Bytes) : List Log.Shown :=
  let (found, asked) := detectInterpreter given lookup
  let way := match given, found, asked.getLast? with
    | some p, _, _ => [note (Log.debug ("Using explicit interpreter " ++ p.display))]
    | none, some _, some name => [note (Log.debug ("Interpreter prefix from " ++ name))]
    | none, _, _ => []
  way ++ [note (Log.info (match found with
    | some p => "Active Python environment: " ++ p.display
    | none => "No active Python environment"))]

/-- What an activation shows. -/
def told (vars : Variables) : Provider → List Log.Shown
  | builtIn given none => searchNotes given fun name => List.lookup name vars
  | _ => []

/-- The interpreter of the active environment, when one is selected. -/
def path? : Provider → Except DiscoveryError (Option Path)
  | builtIn _ none => .error .notActivated
  | builtIn _ (some snapshot) => .ok snapshot
  | foreign c => c.paths 0

/-- The provider once it was asked for the path. -/
def pathAsked : Provider → Provider
  | builtIn given snapshot => builtIn given snapshot
  | foreign c => foreign c.pathAsked

/-- Whether a provider belongs to another extension. -/
def isExtension : Provider → Bool
  | foreign _ => true
  | builtIn _ _ => false

/-- Asks a provider: the provider after it, and what it says. -/
def ask (vars : Variables) (p : Provider) : Question → Provider × Answer
  | .isActive => (p, .isActive p.isActive)
  | .activate => ((p.activate vars).1, .activate (p.activate vars).2)
  | .path => (p.pathAsked, .path p.path?)

/-- The variables that a provider looks up when it is asked. -/
def consults (vars : Variables) : Provider → Question → List String
  | builtIn given none, .activate =>
    (detectInterpreter given fun name => List.lookup name vars).2
  | _, _ => []

end Provider

/-- What happens around a provider: the process environment becomes another one, or the provider is
asked. -/
inductive Happening where
  | change (vars : Variables)
  | ask (q : Question)
deriving DecidableEq, Repr

/-- The process environment and a provider in it, after something happened. -/
def Provider.step : Variables × Provider → Happening → Variables × Provider
  | (_, p), .change vars => (vars, p)
  | (vars, p), .ask q => (vars, (p.ask vars q).1)

/-- The process environment and a provider in it, after all that happened. -/
def Provider.after (vars : Variables) (p : Provider) (past : List Happening) :
    Variables × Provider :=
  past.foldl Provider.step (vars, p)

end Environment

end ServerLink
