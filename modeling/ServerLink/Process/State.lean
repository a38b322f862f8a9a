import ServerLink.Text.Decimal

/-!
# The state of the server's process

* `ProcessState` — not started, running under a number, or stopped.
-/

namespace ServerLink

/-- Where the server's process is in its life. -/
inductive ProcessState where
  | notStarted
  | running (pid : Nat)
  | stopped
deriving DecidableEq, Repr

namespace ProcessState

/-- The number of a running process. -/
def pid? : ProcessState → Option Nat
  | running pid => some pid
  | _ => none

/-- Whether the process is running. -/
def isRunning (s : ProcessState) : Bool := s.pid?.isSome

/-- The name of a state. -/
def name : ProcessState → String
  | notStarted => "NotStarted"
  | running _ => "Running"
  | stopped => "Stopped"

/-- A state as shown in messages. -/
def text : ProcessState → String
  | notStarted => "NotStarted"
  | running pid => "Running \x7b pid: " ++ Decimal.ofNat pid ++ " \x7d"
  | stopped => "Stopped"

end ProcessState

end ServerLink
