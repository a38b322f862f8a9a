import ServerLink.Rpc.Session

/-!
# Callers of a session

Many calls run beside the loop of one session.  Each takes an id, registers it, queues its message
and waits; any other caller, and the loop, may move between two of its turns.

* `Call` — a call, and at which `Stage` its caller is.
* `Call.turn?` — the next turn of a caller, when it is the one asked for.
* `Exchange` — a session with its calls; `Exchange.step?` is one step of anybody.
* `Exchange.Runs` — the runs, each with the steps it took and the states it took them in.

A caller that is given up takes no turn any more; what it registered stays.
-/

namespace ServerLink.Rpc

/-- How a call ends: it is woken, its time is up, the queue took nothing any more, or its parameters
could not be written. -/
inductive Ending where
  | woken (w : Wake)
  | timedOut
  | unsent
  | unwritable (text : String)

/-- At which stage the caller of a call is. -/
inductive Stage where
  /-- It has taken its id. -/
  | numbered
  /-- Its id is registered. -/
  | registered
  /-- The queue did not take its message, and its id is yet to be withdrawn. -/
  | refused
  /-- Its message is queued. -/
  | waiting
  /-- Its time is up, and its id is yet to be withdrawn. -/
  | late
  | done (e : Ending)

/-- A call.  Parameters may turn out not to be writable, with a text that says why. -/
structure Call where
  id : Nat
  method : String
  params : Except String (Option Json)
  stage : Stage

/-- A turn of a caller. -/
inductive Turn where
  | register
  | post
  | withdraw
  | expire
  | finish

/-- What a caller makes of the end of its call. -/
def Ending.result (form : Shape) : Ending → Except RpcError Json
  | .woken w => Session.outcome form w
  | .timedOut => .error .timeout
  | .unsent => .error Session.unsent
  | .unwritable text => .error (.unwritable text)

namespace Call

/-- What a caller that expects a value of the form returns, once its call is over. -/
def result? (form : Shape) (c : Call) : Option (Except RpcError Json) :=
  match c.stage with
  | .done e => some (e.result form)
  | _ => none

/-- The call at another stage. -/
def enter (c : Call) (stage : Stage) : Call := { c with stage }

/-- A turn of a caller: the session and the call after it, when the turn is its next one. -/
def turn? (c : Call) (s : Session) (t : Turn) : Option (Session × Call) :=
  match c.stage, t with
  | .numbered, .register => some (s.move (.register c.id), c.enter .registered)
  | .registered, .post =>
    match c.params with
    -- the call has been registered by now, and stays so
    | .error text => some (s, c.enter (.done (.unwritable text)))
    | .ok params =>
      match s.move? (.post (Session.requestText c.id c.method params)) with
      | some s => some (s, c.enter .waiting)
      | none => some (s, c.enter .refused)
  | .refused, .withdraw => some (s.move (.withdraw c.id), c.enter (.done .unsent))
  | .waiting, .finish => (s.wake? c.id).map fun w => (s, c.enter (.done (.woken w)))
  -- an answer that is there counts even when the time is over
  | .waiting, .expire => if (s.wake? c.id).isNone then some (s, c.enter .late) else none
  | .late, .withdraw => some (s.move (.withdraw c.id), c.enter (.done .timedOut))
  | _, _ => none

end Call

/-- A session and the calls that were begun on it. -/
structure Exchange where
  session : Session
  calls : List Call

/-- A step of anybody. -/
inductive Step where
  /-- A call is begun. -/
  | begin (method : String) (params : Except String (Option Json))
  /-- A caller takes a turn. -/
  | turn (n : Nat) (t : Turn)
  /-- A notification is queued. -/
  | notify (method : String) (params : Option Json)
  /-- The session makes a move that is no caller's. -/
  | session (m : Move)

/-- Whether a move is made by a caller in its turn. -/
def Move.isCallers : Move → Bool
  | .allot | .register _ | .post _ | .withdraw _ => true
  | _ => false

namespace Exchange

/-- A session that has just begun, without a call. -/
def start : Exchange := ⟨.start, []⟩

/-- A step, when it can happen. -/
def step? (e : Exchange) : Step → Option Exchange
  | .begin method params =>
    some ⟨e.session.move .allot, e.calls ++ [⟨e.session.nextId, method, params, .numbered⟩]⟩
  | .turn n t =>
    e.calls[n]?.bind fun c =>
      (c.turn? e.session t).map fun (s, c) => ⟨s, e.calls.set n c⟩
  | .notify method params => some { e with session := (e.session.notify method params).1 }
  | .session m =>
    if m.isCallers then none else (e.session.move? m).map fun s => { e with session := s }

/-- Takes a step if it can happen. -/
def step (e : Exchange) (st : Step) : Exchange := (e.step? st).getD e

/-- The runs of a session that has just begun: what was done, each step with the state in which it
was taken, and the state that came of it. -/
inductive Runs : List (Exchange × Step) → Exchange → Prop where
  | start : Runs [] .start
  | step {past : List (Exchange × Step)} {e f : Exchange} {st : Step} (run : Runs past e)
      (next : e.step? st = some f) : Runs (past ++ [(e, st)]) f

end Exchange

end ServerLink.Rpc
