import ServerLink.Failure.Link
import ServerLink.Process.State

/-!
# Supervising the server's process

A supervisor launches children one after another and keeps one state.  Beside it run two kinds of
workers: for each child one that **waits** for its end, records it and tells who wants to know, and
one that **listens** to its standard error.

* `Supervisor` — the state of the supervisor and the children started so far.
* `Supervisor.Move` — what can happen, and `Supervisor.move?` — a move, when it can happen.
* `Supervisor.start`, `takePipe`, `kill` — what the program does at once.
* `StopStage`, `Supervisor.beginStop` — stopping takes several moves, and others come in between.

The news of a child's end reaches the supervisor late: first the state is set, then the end is told.
Both happen whatever child the state speaks of by then.
-/

namespace ServerLink.Process

/-- How far the news of a child's end has come. -/
inductive News where
  | awaited
  | recorded
  | told
deriving DecidableEq, Repr

/-- A child that was started. -/
structure Child where
  pid : Nat
  /-- How it ended, once it has: with a code or without one. -/
  ending : Option (Option Nat)
  news : News
  /-- Whether someone listens to its standard error. -/
  heard : Bool
  /-- Whether what is heard is handed on. -/
  shown : Bool
deriving DecidableEq, Repr

/-- The end of a child as it is told. -/
structure Exit where
  pid : Nat
  code : Option Nat
deriving DecidableEq, Repr

/-- A supervisor and the children started so far. -/
structure Supervisor where
  state : ProcessState
  /-- The children, in the order in which they were started. -/
  children : List Child
  /-- The child whose pipe nobody has taken yet. -/
  pipe : Option Nat
  /-- The child whose waiting worker is held. -/
  waiter : Option Nat
  /-- The child whose listening worker is held. -/
  listener : Option Nat
  /-- Whether nobody has yet taken the task of handing lines of standard error on. -/
  handsOn : Bool
  /-- The ends that were told, in order. -/
  exits : List Exit
deriving DecidableEq, Repr

namespace Supervisor

/-- A supervisor that has started nothing. -/
def new : Supervisor := ⟨.notStarted, [], none, none, none, true, []⟩

/-- What can happen to a supervisor. -/
inductive Move where
  /-- A child is started. -/
  | launch (pid : Nat)
  /-- The pipe of the child is taken. -/
  | takePipe
  /-- The pipe that nobody took is closed. -/
  | closePipe
  /-- The child that the state names is killed, and given up at once. -/
  | kill
  /-- The waiting worker was seen to be done. -/
  | reap
  /-- The child is given up. -/
  | giveUp
  /-- A child ends. -/
  | exit (pid : Nat) (code : Option Nat)
  /-- The end of a child is recorded. -/
  | record (pid : Nat)
  /-- The end of a child is told. -/
  | tell (pid : Nat)

/-- The child of a number. -/
def child? (s : Supervisor) (pid : Nat) : Option Child := s.children.find? (·.pid = pid)

/-- Changes the child of a number. -/
def change (s : Supervisor) (pid : Nat) (f : Child → Child) : Supervisor :=
  { s with children := s.children.map fun c => if c.pid = pid then f c else c }

/-- Whether a child is running by what the supervisor knows. -/
def isRunning (s : Supervisor) : Bool := s.state.isRunning

/-- Whether a child has not ended. -/
def isAlive (s : Supervisor) (pid : Nat) : Bool := (s.child? pid).any (·.ending.isNone)

/-- A child begins.  Only one worker listens at a time, and one that was never given up keeps its
place; the first hands on what it hears. -/
def launched (s : Supervisor) (pid : Nat) : Supervisor :=
  { s with
    state := .running pid
    children := s.children
      ++ [⟨pid, none, .awaited, s.listener.isNone, s.listener.isNone && s.handsOn⟩]
    pipe := some pid
    waiter := some pid
    listener := s.listener <|> some pid
    handsOn := s.handsOn && s.listener.isSome }

/-- The listening worker ends and the state is stopped. -/
def givenUp (s : Supervisor) : Supervisor :=
  let s := match s.listener with
    | some pid => s.change pid fun c => { c with heard := false }
    | none => s
  { s with listener := none, state := .stopped }

/-- A move, when it can happen. -/
def move? (s : Supervisor) : Move → Option Supervisor
  | .launch pid =>
    if !s.isRunning && (s.child? pid).isNone then some (s.launched pid) else none
  | .takePipe => if s.pipe.isSome then some { s with pipe := none } else none
  | .closePipe => if s.pipe.isSome then some { s with pipe := none } else none
  | .kill =>
    match s.state.pid? with
    | some pid => some (s.change pid fun c => { c with ending := c.ending <|> some none }).givenUp
    | none => none
  | .reap =>
    match s.waiter.bind s.child? with
    | some c => if c.news = .told then some { s with waiter := none } else none
    | none => none
  | .giveUp => some s.givenUp
  | .exit pid code =>
    if s.isAlive pid then some (s.change pid fun c => { c with ending := some code }) else none
  | .record pid =>
    match s.child? pid with
    | some c =>
      -- the state is set whichever child it names by now
      if c.ending.isSome && c.news = .awaited then
        some { s.change pid fun c => { c with news := .recorded } with state := .stopped }
      else none
    | none => none
  | .tell pid =>
    match s.child? pid with
    | some ⟨_, some code, .recorded, _, _⟩ =>
      some { s.change pid fun c => { c with news := .told } with exits := s.exits ++ [⟨pid, code⟩] }
    | _ => none

/-- Makes a move if it can happen. -/
def move (s : Supervisor) (m : Move) : Supervisor := (s.move? m).getD s

/-! ## What the program does at once -/

/-- Starts a child with the outcome of its launch, unless one is running. -/
def start (s : Supervisor) (command : Path) (outcome : Except SystemError Nat) :
    Supervisor × Option ProcessError :=
  if s.isRunning then (s, some .alreadyStarted)
  else
    match outcome with
    | .error e => (s, some (.spawn command.display e))
    | .ok pid => (s.move (.launch pid), none)

/-- Takes the pipe of the child that was started last; it can be taken once. -/
def takePipe (s : Supervisor) : Supervisor × Except ProcessError Nat :=
  match s.pipe with
  | some pid => (s.move .takePipe, .ok pid)
  | none => (s, .error .notStarted)

/-- Kills the child that is running and gives it up without waiting. -/
def kill (s : Supervisor) : Supervisor := s.move .kill

/-! ## Stopping -/

/-- How a child is stopped: by closing its input first, or by force. -/
inductive StopMode where
  | graceful
  | force
deriving DecidableEq, Repr

/-- How long a stop waits for a child that was asked to leave, in milliseconds. -/
def graceTime : Nat := 2000

/-- How far a stop is: it waits for the child to leave by itself, or after a signal, and then it is
done. -/
inductive StopStage where
  | grace (pid : Nat)
  | terminated (pid : Nat)
  | killed (pid : Nat)
  | done
deriving DecidableEq, Repr

/-- Begins a stop: the state names the child, and a pipe that nobody took is closed. -/
def beginStop (s : Supervisor) (mode : StopMode) : Except ProcessError (Supervisor × StopStage) :=
  match s.state.pid? with
  | none => .error .notStarted
  | some pid =>
    .ok (s.move .closePipe, match mode with
      | .graceful => .grace pid
      | .force => .killed pid)

/-- Whether a stop has seen the end of the child. -/
def sawEnd (s : Supervisor) : Bool :=
  match s.waiter with
  | some pid => (s.child? pid).all (·.news = .told)
  | none => !s.isRunning

/-- Ends a stop whose waiting is over. -/
def finishStop (s : Supervisor) : Supervisor := (s.move .reap).move .giveUp

/-- The next stage of a stop whose waiting was in vain. -/
def StopStage.escalate : StopStage → StopStage
  | .grace pid => .terminated pid
  | .terminated pid => .killed pid
  | .killed _ | .done => .done

end Supervisor

end ServerLink.Process
