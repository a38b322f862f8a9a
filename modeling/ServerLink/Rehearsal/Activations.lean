import ServerLink.Lifecycle.Manager
import ServerLink.Rehearsal.Scene

/-!
# Activations in a row

A manager whose connections either behave as they are told to or are real ones on a machine.

* `Behaviour` — how a call of a connection ends, if it does.
* `Activations` — the state, with all that has been shown so far.
* `Activations.activate`, `deactivate`, `wait`, `forget`, `release` — what happens to it.

Calls that are due begin at once and in order.  Those that wait at the **gate** pass it one by one
as it is released; a release that nobody waits for is kept.
-/

namespace ServerLink.Rehearsal

open Lifecycle

/-- How a call of a connection ends. -/
inductive Behaviour where
  | well
  | gated
  | breaks
  | fails (e : ConnectionError)

/-- A manager and all around it. -/
structure Activations where
  manager : Manager
  vars : Variables
  registry : Environment.Registry
  /-- Whether connections are real, and the machine that they run on. -/
  machine : Option Machine
  /-- How the start and the stop of each connection end. -/
  behaviours : List (Behaviour × Behaviour)
  /-- The real connections. -/
  scenes : List Scene
  releases : Nat
  /-- The calls at the gate, in order. -/
  gate : List Call
  slots : List (String × Call)
  questions : List Environment.Question
  shown : List Log.Shown

/-- What became of a call that somebody waited for. -/
inductive Wait where
  | unknown
  | pending
  | finished (result : Except LifecycleError Unit)

namespace Activations

/-- A manager that has done nothing. -/
def new (options : Options) (vars : Variables) (registry : Environment.Registry)
    (machine : Option Machine) : Activations :=
  { manager := .new options, vars, registry, machine, behaviours := [], scenes := []
    releases := 0, gate := [], slots := [], questions := [], shown := [] }

/-- A call is over. -/
def conclude (a : Activations) (c : Call) (r : Except LifecycleError Unit) : Activations :=
  { a with manager := (a.manager.finish c r).getD a.manager }

/-- A call meets the gate. -/
def meetGate (a : Activations) (c : Call) : Activations :=
  if 0 < a.releases then { a with releases := a.releases - 1 }.conclude c (.ok ())
  else { a with gate := a.gate ++ [c] }

/-- Plays a call of a connection that behaves as told. -/
def play (a : Activations) (c : Call) : Behaviour → Activations
  | .well => a.conclude c (.ok ())
  | .gated => a.meetGate c
  | .breaks => a.conclude c (.error (.task ""))
  | .fails e => a.conclude c (.error (.connection e))

/-- How a call ends that is told how to. -/
def behaviour (a : Activations) : Call → Behaviour
  | .start n => ((a.behaviours[n]?).map (·.1)).getD .well
  | .stop n => ((a.behaviours[n]?).map (·.2)).getD .well

/-- Makes a call of a real connection. -/
def perform (a : Activations) (c : Call) (n : Nat) (m : Connection.Move) : Activations :=
  match a.scenes[n]? with
  | none => a
  | some before =>
    let (after, k) := before.call m
    let shown := { a with
      scenes := a.scenes.set n after
      shown := a.shown ++ after.connection.shown.drop before.connection.shown.length }
    match after.result? k with
    | some (.error e) => shown.conclude c (.error (.connection e))
    | _ => shown.conclude c (.ok ())

/-- Lets a due call run. -/
def run (a : Activations) (c : Call) : Activations :=
  let a := { a with manager := (a.manager.begin c).getD a.manager }
  match a.machine, c with
  | none, c => a.play c (a.behaviour c)
  | some _, .start n => a.perform c n .callStart
  | some _, .stop n => a.perform c n .callStop

/-- Lets all due calls run. -/
def runDue (a : Activations) : Activations := a.manager.due.foldl run a

/-- Keeps a call under a name; one that was kept under it before is forgotten. -/
def keep (a : Activations) (slot : String) (c : Call) : Activations :=
  { a with slots := (slot, c) :: a.slots.filter (·.1 != slot) }

/-- The new connection of an activation takes its place. -/
def join (a : Activations) (behaviour : Behaviour × Behaviour) (config : Config) (n : Nat) :
    Activations :=
  match a.machine with
  | some m => { a with scenes := a.scenes ++ [.new m none config] }
  | none =>
    { a with
      behaviours := a.behaviours ++ [behaviour]
      shown := a.shown ++ [.notice ("created " ++ Decimal.ofNat n)] }

/-- Activates the client for a workspace. -/
def activate (a : Activations) (slot : String) (workspaceRoot : Path)
    (behaviour : Behaviour × Behaviour) : Activations × Except LifecycleError Unit :=
  let r := a.manager.activate a.vars ⟨workspaceRoot, a.registry⟩
  let a := { a with
    manager := r.manager
    registry := (r.resolution.map (·.registry)).getD a.registry
    questions := a.questions ++ (r.resolution.map (·.questions)).getD []
    shown := a.shown ++ r.shown }
  match r.result, r.manager.made.getLast? with
  | .ok n, some config => (((a.join behaviour config n).keep slot (.start n)).runDue, .ok ())
  | .error e, _ => (a, .error e)
  | _, none => (a, .ok ())

/-- Deactivates the client; tells whether there was something to stop. -/
def deactivate (a : Activations) (slot : String) : Activations × Bool :=
  match a.manager.deactivate with
  | (_, none) => (a, false)
  | (m, some n) => (({ a with manager := m }.keep slot (.stop n)).runDue, true)

/-- Forgets a call; tells whether it was kept. -/
def forget (a : Activations) (slot : String) : Activations × Bool :=
  ({ a with slots := a.slots.filter (·.1 != slot) }, (a.slots.lookup slot).isSome)

/-- Waits for a call, which is forgotten thereby. -/
def wait (a : Activations) (slot : String) : Activations × Wait :=
  match a.slots.lookup slot with
  | none => (a, .unknown)
  | some c =>
    ((a.forget slot).1, match a.manager.outcome? c with
      | some r => .finished r
      | none => .pending)

/-- Lets one call pass the gate. -/
def release (a : Activations) : Activations :=
  match a.gate with
  | c :: rest => { a with gate := rest }.conclude c (.ok ())
  | [] => { a with releases := a.releases + 1 }

end Activations

end ServerLink.Rehearsal
