import ServerLink.Rpc.Exchange
import ServerLink.Transport.Scripted

/-!
# A session with its surroundings

The session with its callers, the stream it uses, and a clock.  Time passes only when nothing else
can happen, and a caller takes its turns one after the other.

* `World.settle` — lets the loop work until it waits.
* `World.begin` — begins a call with a deadline.
* `World.await` — lets time pass until a call is over.
* `World.pass` — lets an amount of time pass.
* `World.close`, `World.drop` — the two ways in which a client gives its session up.
-/

namespace ServerLink.Rpc

open Transport

/-- A session with its calls, its stream, the time, the times at which the calls give up, and
whether the client has been given up. -/
structure World extends Exchange where
  stream : Scripted
  now : Nat
  deadlines : List Nat
  abandoned : Bool

namespace World

/-- A world that has just begun. -/
def start (stream : Scripted) : World := ⟨.start, stream, 0, [], false⟩

/-- Takes a step if it can happen. -/
def take (w : World) (st : Step) : World := { w with toExchange := w.step st }

/-- Makes a move of the session. -/
def act (w : World) (m : Move) : World := w.take (.session m)

/-- A caller takes a turn, if it is its next one. -/
def turn (w : World) (n : Nat) (t : Turn) : World := w.take (.turn n t)

/-- What the loop does next, with the stream after it; nothing when it waits. -/
def loopMove? (s : Session) (t : Scripted) : Option (Move × Scripted) :=
  match s.phase with
  | .running =>
    if s.stopping then some (.observeStop, t)
    else
      match s.outbox with
      | work :: _ =>
        match work.chunk? with
        | some chunk =>
          match t.send chunk with
          | .ok t => some (.write none, t)
          | .error why => some (.write (some why), t)
        | none => some (.acknowledge, t)
      | [] =>
        if !s.decoder.queue.isEmpty then some (.deliver, t)
        else
          match t.receive with
          | (.chunk c, t) => some (.absorb c, t)
          | (.failed _, t) => some (.loseStream, t)
          | (.waiting, _) => none
  | .handing _ => some (.dispatch, t)
  | .waking => some (.wake, t)
  | .closing => some (.close, { t with closed := true })
  | .dropping => some (.drop, t)
  | .ended => none

/-- Lets the loop make up to `fuel` moves. -/
def settleFor (fuel : Nat) (w : World) : World :=
  match fuel with
  | 0 => w
  | fuel + 1 =>
    match loopMove? w.session w.stream with
    | none => w
    | some (m, t) => settleFor fuel { w.act m with stream := t }

/-- The most moves that the loop makes at a time. -/
def patience : Nat := 1000000

/-- Whether a call is over, or need not wait any more. -/
def isOver (w : World) (n : Nat) : Bool :=
  match w.calls[n]? with
  | none => true
  | some c =>
    match c.stage with
    | .waiting => (w.session.wake? c.id).isSome
    | _ => true

/-- The calls that are not over. -/
def waiting (w : World) : List Nat := (List.range w.calls.length).filter (!w.isOver ·)

/-- The time at which a call gives up. -/
def deadline (w : World) (n : Nat) : Nat := w.deadlines.getD n 0

/-- A client that was given up stops its loop once no call needs it. -/
def release (w : World) : World :=
  if w.abandoned && w.waiting.isEmpty then w.act .stop else w

/-- Lets the loop work until it waits. -/
def settle (w : World) : World := settleFor patience (settleFor patience w).release

/-- Calls whose time is up give up. -/
def expire (w : World) : World :=
  w.waiting.foldl (fun w n =>
    if w.deadline n ≤ w.now then (w.turn n .expire).turn n .withdraw else w) w

/-- Begins a call; one without any time gives up at once.  Where the queue takes nothing any more
the call is over at once. -/
def begin (w : World) (method : String) (params : Option Json) (timeout : Nat) :
    World × Except RpcError Nat :=
  let n := w.calls.length
  let w := (((w.take (.begin method (.ok params))).turn n .register).turn n .post).turn n .withdraw
  let w := expire { w with deadlines := w.deadlines ++ [w.now + timeout] }
  match (w.calls[n]?).map Call.stage with
  | some (.done .unsent) => (w, .error Session.unsent)
  | _ => (w, .ok n)

/-- Queues a notification. -/
def notify (w : World) (method : String) (params : Option Json) : World × Option RpcError :=
  let (s, e) := w.session.notify method params
  ({ w with session := s }, e)

/-- Sets the clock forward; calls whose time is up give up. -/
def advance (w : World) (time : Nat) : World := (expire { w with now := max w.now time }).settle

/-- The first time at which a waiting call gives up. -/
def nextDeadline? (w : World) : Option Nat := (w.waiting.map w.deadline).min?

/-- Lets time pass, deadline by deadline, until a condition holds or no deadline is left before
`limit`. -/
def passUntil (done : World → Bool) (limit : Option Nat) (fuel : Nat) (w : World) : World :=
  match fuel with
  | 0 => w
  | fuel + 1 =>
    let w := w.settle
    if done w then w
    else
      match w.nextDeadline? with
      | none => w
      | some d =>
        if limit.all (d ≤ ·) then passUntil done limit fuel (w.advance d) else w

/-- Lets an amount of time pass. -/
def pass (w : World) (time : Nat) : World :=
  let limit := w.now + time
  (passUntil (fun _ => false) (some limit) (w.calls.length + 1) w).advance limit

/-- Lets time pass until a call is over. -/
def await (w : World) (n : Nat) : World :=
  passUntil (·.isOver n) none (w.calls.length + 2) w

/-- What a caller makes of a call that is over. -/
def result (w : World) (form : Shape) (n : Nat) : Except RpcError Json :=
  ((w.turn n .finish).calls[n]?.bind (·.result? form)).getD (.error .timeout)

/-- Calls and waits. -/
def request (w : World) (form : Shape) (method : String) (params : Option Json) (timeout : Nat) :
    World × Except RpcError Json :=
  match w.begin method params timeout with
  | (w, .error e) => (w, .error e)
  | (w, .ok n) =>
    let w := w.await n
    (w, w.result form n)

/-- Closes the session once all that is queued has been written. -/
def close (w : World) : World := (((w.act .mark).settle.act .cancelAll).act .stop).settle

/-- Gives the client up. -/
def drop (w : World) : World := { w with abandoned := true }.settle

end World

end ServerLink.Rpc
