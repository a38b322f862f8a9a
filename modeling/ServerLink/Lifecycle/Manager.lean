import ServerLink.Environment.Command
import ServerLink.Environment.Context
import ServerLink.Config

/-!
# The life of a client

A manager holds at most one connection.  An activation finds the server's command, checks the
configuration, makes a connection and lets its start run on its own; a deactivation lets the stop of
the held connection run on its own.

* `Manager` — the state, with the history of what was made and called.
* `Manager.activate`, `Manager.deactivate` — the two operations.
* `Manager.Event`, `Manager.after` — the operations, and the begin and the end of calls that run on
  their own, in any order.

A connection is the number of its place among all that were made.
-/

namespace ServerLink.Lifecycle

/-- Where a manager is. -/
inductive Stage where
  | uninitialized
  | started
  | stopped
deriving DecidableEq, Repr

/-- The name of a stage. -/
def Stage.name : Stage → String
  | .uninitialized => "Uninitialized"
  | .started => "Started"
  | .stopped => "Stopped"

/-- What every configuration is given. -/
structure Options where
  startTimeout : Option Duration
  requestTimeout : Option Duration
deriving DecidableEq, Repr

/-- Nothing is given. -/
def Options.none : Options := ⟨Option.none, Option.none⟩

/-- The timeouts that are given. -/
def Options.settings (o : Options) : List Config.Setting :=
  (o.startTimeout.map Config.Setting.startTimeout).toList
    ++ (o.requestTimeout.map Config.Setting.requestTimeout).toList

/-- A call of a connection that runs on its own. -/
inductive Call where
  | start (connection : Nat)
  | stop (connection : Nat)
deriving DecidableEq, Repr

/-- The name of a call. -/
def Call.text : Call → String
  | .start n => Decimal.ofNat n ++ ":start"
  | .stop n => Decimal.ofNat n ++ ":stop"

/-- A manager of connections. -/
structure Manager where
  options : Options
  stage : Stage
  /-- The connection that is held. -/
  held : Option Nat
  /-- The configurations of all connections made. -/
  made : List Config
  /-- The calls that have not begun. -/
  due : List Call
  /-- The calls that have begun, in order. -/
  begun : List Call
  /-- The calls that are over and what came of them, in order. -/
  ended : List (Call × Except LifecycleError Unit)

/-- What comes of an activation: the manager after it, the connection made or why there is none, and
the search for the command unless it was refused before, with all that was shown. -/
structure Activation where
  manager : Manager
  result : Except LifecycleError Nat
  resolution : Option Environment.Resolution
  shown : List Log.Shown

namespace Manager

/-- A line of the manager. -/
def note (line : Log.Line) : Log.Shown := .line Log.lifecycleTarget line

/-- A manager that has done nothing. -/
def new (options : Options) : Manager := ⟨options, .uninitialized, none, [], [], [], []⟩

/-- The configuration of a connection. -/
def config (m : Manager) (command workspaceRoot : Path) : Except ConfigError Config :=
  ((Config.draft command workspaceRoot).setAll m.options.settings).build

/-- Makes a connection: it is held and its start is due. -/
def make (m : Manager) (c : Config) : Manager :=
  let n := m.made.length
  { m with stage := .started, held := some n, made := m.made ++ [c], due := m.due ++ [.start n] }

/-- Activates the client: a connection is made unless there is one. -/
def activate (m : Manager) (vars : Variables) (c : Environment.Context) : Activation :=
  if m.stage = .started then
    { manager := m, result := .error .alreadyStarted, resolution := none
      shown := [note (Log.warn "Activation requested while the client is running")] }
  else
    let r := Environment.resolve vars c.registry
    match m.config r.command c.workspaceRoot with
    | .error e =>
      { manager := m, result := .error (.config e), resolution := some r, shown := r.shown }
    | .ok config =>
      { manager := m.make config, result := .ok m.made.length, resolution := some r
        shown := r.shown ++ [note (Log.info "Client activated")] }

/-- Deactivates the client: the stop of the held connection is due, if there is one. -/
def deactivate (m : Manager) : Manager × Option Nat :=
  match m.held with
  | none => (m, none)
  | some n => ({ m with stage := .stopped, held := none, due := m.due ++ [.stop n] }, some n)

/-- What a deactivation shows. -/
def parting (m : Manager) : Log.Shown :=
  note (match m.held with
    | none => Log.debug "Deactivation with no client, nothing to stop"
    | some _ => Log.info "Client deactivating")

/-- A due call begins. -/
def begin (m : Manager) (call : Call) : Option Manager :=
  if m.due.contains call then some { m with due := m.due.erase call, begun := m.begun ++ [call] }
  else none

/-- What came of a call, once it is over. -/
def outcome? (m : Manager) (call : Call) : Option (Except LifecycleError Unit) :=
  (m.ended.find? (·.1 = call)).map (·.2)

/-- A call that has begun is over. -/
def finish (m : Manager) (call : Call) (result : Except LifecycleError Unit) : Option Manager :=
  if m.begun.contains call && (m.outcome? call).isNone then
    some { m with ended := m.ended ++ [(call, result)] }
  else none

/-! ## Runs -/

/-- What happens to a manager: an operation, or a call begins or is over. -/
inductive Event where
  | activate (vars : Variables) (c : Environment.Context)
  | deactivate
  | begin (call : Call)
  | finish (call : Call) (result : Except LifecycleError Unit)
  | choose (options : Options)

/-- The manager after an event. -/
def step (m : Manager) : Event → Manager
  | .activate vars c => (m.activate vars c).manager
  | .deactivate => m.deactivate.1
  | .begin call => (m.begin call).getD m
  | .finish call result => (m.finish call result).getD m
  | .choose options => { m with options }

/-- The manager after a run of events. -/
def after (m : Manager) (events : List Event) : Manager := events.foldl step m

end Manager

end ServerLink.Lifecycle
