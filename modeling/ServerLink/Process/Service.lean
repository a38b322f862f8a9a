import ServerLink.Process.Supervisor
import ServerLink.Process.Voice

/-!
# A supervisor at work

A supervisor is used by one caller at a time: starts, stops and kills come one after another.  A
stop takes its time, and may be abandoned while it waits.  In between, and whatever the caller does,
the children speak and end, and the workers beside them listen, wait and tell.

* `Service` — a supervisor, the stop that is under way, and the standard error of each child.
* `Service.start`, `takePipe`, `kill`, `beginStop`, `finishStop` — what the caller does.
* `Service.Step` — what can happen, and `Service.step?` — a step, when it can happen.

The number of a child stands for the child: no number is given twice.  A signal that a stop sends is
no step of its own: a child may end at any time.
-/

namespace ServerLink.Process

/-- A supervisor at work. -/
structure Service where
  /-- The command that is launched, as it is named in failures. -/
  command : Path
  supervisor : Supervisor
  /-- How far the stop is that is under way; without one, it is done. -/
  stage : Supervisor.StopStage
  /-- The standard error of the children, in the order in which they were started. -/
  voices : List Voice

namespace Service

/-- A service that has started nothing. -/
def new (command : Path) : Service := ⟨command, .new, .done, []⟩

/-- What can happen to a service. -/
inductive Step where
  /-- The caller starts a child, with the outcome of the launch. -/
  | start (outcome : Except SystemError Nat)
  /-- The caller takes the pipe. -/
  | takePipe
  /-- The caller kills the child, or gives the supervisor up. -/
  | kill
  /-- The caller begins a stop. -/
  | stop (mode : Supervisor.StopMode)
  /-- The stop has seen the end of the child. -/
  | see
  /-- The stop has waited in vain, and becomes more urgent. -/
  | escalate
  /-- The stop has waited in vain, and gives the child up. -/
  | giveUp
  /-- The caller abandons the stop. -/
  | abandon
  /-- A child ends. -/
  | exit (pid : Nat) (code : Option Nat)
  /-- The end of a child is recorded. -/
  | record (pid : Nat)
  /-- The end of a child is told. -/
  | tell (pid : Nat)
  /-- A child speaks, or what it says is heard. -/
  | voice (pid : Nat) (m : Voice.Move)

/-- The standard error of a child. -/
def voice? (s : Service) (pid : Nat) : Option Voice := s.voices.find? (·.pid = pid)

/-- Whether someone listens to a child. -/
def hears (s : Service) (pid : Nat) : Bool := (s.voice? pid).any Voice.isHeard

/-- The lines that were handed on. -/
def lines (s : Service) : List String := s.voices.flatMap Voice.lines

/-- Whether no stop is under way. -/
def isFree (s : Service) : Bool := s.stage = .done

/-! ## What the caller does -/

/-- The standard error of a child as the supervisor sees to it at the launch. -/
def voiceOf (c : Child) : Voice := .start c.pid c.heard c.shown

/-- Starts a child with the outcome of its launch, unless one is running. -/
def start (s : Service) (outcome : Except SystemError Nat) : Service × Option ProcessError :=
  let (t, e) := s.supervisor.start s.command outcome
  let begun := t.children.drop s.supervisor.children.length
  ({ s with supervisor := t, voices := s.voices ++ begun.map voiceOf }, e)

/-- Takes the pipe of the child that was started last. -/
def takePipe (s : Service) : Service × Except ProcessError Nat :=
  let (t, r) := s.supervisor.takePipe
  ({ s with supervisor := t }, r)

/-- The listener that is held is stopped. -/
def silenced (s : Service) : List Voice :=
  s.voices.map fun v => if s.supervisor.listener = some v.pid then v.silence else v

/-- Kills the child that is running, and gives it up without waiting. -/
def kill (s : Service) : Service :=
  if s.supervisor.isRunning then { s with supervisor := s.supervisor.kill, voices := s.silenced }
  else s

/-- Begins a stop, unless nothing is running. -/
def beginStop (s : Service) (mode : Supervisor.StopMode) : Service × Option ProcessError :=
  match s.supervisor.beginStop mode with
  | .error e => (s, some e)
  | .ok (t, stage) => ({ s with supervisor := t, stage }, none)

/-- Ends a stop whose waiting is over. -/
def finishStop (s : Service) : Service :=
  { s with supervisor := s.supervisor.finishStop, stage := .done, voices := s.silenced }

/-! ## Steps -/

/-- Changes the supervisor by a move, when it can happen. -/
def act? (s : Service) (m : Supervisor.Move) : Option Service :=
  (s.supervisor.move? m).map fun t => { s with supervisor := t }

/-- Puts a changed standard error in its place. -/
def put (s : Service) (w : Voice) : Service :=
  { s with voices := s.voices.map fun v => if v.pid = w.pid then w else v }

/-- A step, when it can happen. -/
def step? (s : Service) : Step → Option Service
  | .start (.ok pid) =>
    -- the system gives no number twice
    if s.isFree && (s.supervisor.child? pid).isNone then some (s.start (.ok pid)).1 else none
  | .start (.error e) => if s.isFree then some (s.start (.error e)).1 else none
  | .takePipe => if s.isFree then some s.takePipe.1 else none
  | .kill => if s.isFree then some s.kill else none
  | .stop mode => if s.isFree then some (s.beginStop mode).1 else none
  | .see => if !s.isFree && s.supervisor.sawEnd then some s.finishStop else none
  | .escalate =>
    if s.supervisor.sawEnd then none
    else
      match s.stage with
      | .grace _ | .terminated _ => some { s with stage := s.stage.escalate }
      | _ => none
  | .giveUp =>
    if s.supervisor.sawEnd then none
    else
      match s.stage with
      | .killed _ => some s.finishStop
      | _ => none
  | .abandon => if s.isFree then none else some { s with stage := .done }
  | .exit pid code => s.act? (.exit pid code)
  | .record pid => s.act? (.record pid)
  | .tell pid => s.act? (.tell pid)
  | .voice pid m => (s.voice? pid).bind fun v => (v.move? m).map s.put

/-- Takes a step if it can happen. -/
def step (s : Service) (st : Step) : Service := (s.step? st).getD s

end Service

end ServerLink.Process
