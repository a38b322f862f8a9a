import ServerLink.Frame
import ServerLink.Rpc.Message

/-!
# A session of remote calls

Many callers share one stream.  A single loop owns the stream: it writes what is queued and hands
out what arrives.  Callers and loop take turns in any order, so a session is a state and a set of
**moves**, each of which happens as a whole.

* `Session` — the state: bytes received, messages queued, calls that wait, and how far the loop is.
* `Move` — what can happen: moves of callers, and moves of the loop.
* `Session.move?` — a move, when it can happen.

The loop looks for a stop first, then for queued work, and receives only when there is neither.  A
message received is in its hand until it is handed out, whatever happens in between.  When the loop
ends it wakes every caller that still waits, closes the stream and drops the queue, in that order
and with room for others in between.
-/

namespace ServerLink.Rpc

open Log (Shown)

/-- Who answers the server's requests and who listens to its notifications. -/
structure Handlers where
  onRequest : Option (Request → Response × List Shown)
  onNotification : Option (Notification → List Shown)

/-- Nobody answers and nobody listens. -/
def Handlers.none : Handlers := ⟨Option.none, Option.none⟩

/-- Work for the loop, in order: a message to be written, or a mark that is acknowledged once all
before it has been written. -/
inductive Outbound where
  | message (text : String)
  | mark (ticket : Nat)

/-- The chunk in which the loop hands work to the stream: the frame of a message. -/
def Outbound.chunk? : Outbound → Option Bytes
  | message text => some (Frame.ofMessage text)
  | mark _ => none

/-- How far the loop is: it runs, or has a message in its hand, or it has ended and is about to wake
the waiting, to close the stream, to drop the queue, or is done. -/
inductive Phase where
  | running
  | handing (text : String)
  | waking
  | closing
  | dropping
  | ended
deriving DecidableEq, Repr

/-- How a caller is woken. -/
inductive Wake where
  | answered (r : Response)
  | cancelled

/-- The state of a session. -/
structure Session where
  decoder : Frame.Decoder
  outbox : List Outbound
  phase : Phase
  /-- Whether the loop has been asked to stop. -/
  stopping : Bool
  /-- The id of the next call. -/
  nextId : Nat
  /-- The ids of the calls that wait for an answer. -/
  pending : List Nat
  /-- The calls that were woken, in order. -/
  woken : List (Nat × Wake)
  /-- The ticket of the next mark. -/
  nextTicket : Nat
  /-- The marks that were acknowledged. -/
  acknowledged : List Nat
  handlers : Handlers
  /-- The messages that were written, in order. -/
  written : List String
  /-- What was shown, in order. -/
  shown : List Shown

/-- A session that has just begun. -/
def Session.start : Session :=
  { decoder := .empty, outbox := [], phase := .running, stopping := false, nextId := 1
    pending := [], woken := [], nextTicket := 0, acknowledged := [], handlers := .none
    written := [], shown := [] }

/-- What can happen to a session. -/
inductive Move where
  /-- A call takes the next id. -/
  | allot
  /-- A call begins to wait for the answer to its id. -/
  | register (id : Nat)
  /-- A message joins the queue. -/
  | post (text : String)
  /-- A mark joins the queue. -/
  | mark
  /-- A call gives up waiting. -/
  | withdraw (id : Nat)
  /-- Every waiting call is woken without an answer. -/
  | cancelAll
  /-- The loop is asked to stop. -/
  | stop
  /-- Handlers are installed. -/
  | install (h : Handlers)
  /-- The loop observes the request to stop. -/
  | observeStop
  /-- The loop writes the first message of the queue; the stream may refuse it with a text. -/
  | write (refusal : Option String)
  /-- The loop acknowledges the mark at the front of the queue. -/
  | acknowledge
  /-- The loop receives a chunk, and takes the first message into its hand if there is one now. -/
  | absorb (chunk : Bytes)
  /-- The loop takes the first message that waits into its hand. -/
  | deliver
  /-- The loop hands out the message in its hand. -/
  | dispatch
  /-- The stream has nothing more to give. -/
  | loseStream
  /-- The loop has ended and wakes the waiting. -/
  | wake
  /-- The loop has woken the waiting and closes the stream. -/
  | close
  /-- The loop has closed the stream and drops the queue. -/
  | drop

namespace Session

/-- Whether the queue still takes messages. -/
def isOpen (s : Session) : Bool := s.phase != .ended

/-- Whether the session may still be used: nobody asked it to stop and its queue is open. -/
def isConnected (s : Session) : Bool := !s.stopping && s.isOpen

/-- Whether the loop turns to the queue. -/
def turnsToQueue (s : Session) : Bool := s.phase = .running && !s.stopping

/-- Whether the loop turns to the stream. -/
def turnsToStream (s : Session) : Bool := s.turnsToQueue && s.outbox.isEmpty

/-- The chunk that a move hands to the stream, which takes it or refuses it. -/
def chunk? (s : Session) : Move → Option Bytes
  | .write _ => s.outbox.head?.bind Outbound.chunk?
  | _ => none

/-- Adds to what was shown. -/
def showAll (s : Session) (more : List Shown) : Session := { s with shown := s.shown ++ more }

/-- A line of the session. -/
def note (line : Log.Line) : Shown := .line Log.sessionTarget line

/-- Wakes every waiting call without an answer. -/
def cancelWaiting (s : Session) : Session :=
  { s with pending := [], woken := s.woken ++ s.pending.map fun id => (id, .cancelled) }

/-- The loop takes the first message that waits into its hand. -/
def takeUp? (s : Session) : Option Session :=
  s.decoder.next?.map fun (text, rest) => { s with decoder := rest, phase := .handing text }

/-! ## Handing out a message -/

/-- Hands out an answer: the waiting call of its id is woken with it. -/
def takeResponse (s : Session) (r : Response) : Session :=
  match r.id.nat64? with
  | none => s.showAll [note (Log.warn ("Response with non-numeric id: " ++ r.id.write))]
  | some id =>
    if s.pending.contains id then
      { s with pending := s.pending.filter (· != id), woken := s.woken ++ [(id, .answered r)] }
    else s

/-- The reply to a request, and what is shown of it. -/
def replyTo (s : Session) (r : Request) : Response × List Shown :=
  match s.handlers.onRequest with
  | some handler => handler r
  | none => (Response.methodNotFound r.id r.method, [])

/-- Hands out a request: a reply joins the queue. -/
def takeRequest (s : Session) (r : Request) : Session :=
  let (reply, shown) := s.replyTo r
  { s.showAll shown with outbox := s.outbox ++ [.message reply.text] }

/-- Hands out a notification to whoever listens. -/
def takeNotification (s : Session) (n : Notification) : Session :=
  match s.handlers.onNotification with
  | some handler => s.showAll (handler n)
  | none => s

/-- Hands out a message. -/
def dispatch (s : Session) (text : String) : Session :=
  match Inbound.read text with
  | .ok (.response r) => s.takeResponse r
  | .ok (.request r) => s.takeRequest r
  | .ok (.notification n) => s.takeNotification n
  | .error e =>
    s.showAll [note (Log.warn ("Dropping unparseable message from server: " ++ e.failure.message))]

/-! ## Moves -/

/-- A move, when it can happen. -/
def move? (s : Session) : Move → Option Session
  | .allot => some { s with nextId := (s.nextId + 1) % Decimal.limit64 }
  | .register id => some { s with pending := s.pending ++ [id] }
  | .post text =>
    if s.isOpen then some { s with outbox := s.outbox ++ [.message text] } else none
  | .mark =>
    if s.isOpen then
      some { s with outbox := s.outbox ++ [.mark s.nextTicket], nextTicket := s.nextTicket + 1 }
    else none
  | .withdraw id => some { s with pending := s.pending.filter (· != id) }
  | .cancelAll => some s.cancelWaiting
  | .stop => some { s with stopping := true }
  | .install h => some { s with handlers := h }
  | .observeStop =>
    if s.phase = .running && s.stopping then some { s with phase := .waking } else none
  | .write refusal =>
    match s.turnsToQueue, s.outbox with
    | true, .message text :: rest =>
      match refusal with
      | none => some { s with outbox := rest, written := s.written ++ [text] }
      | some why =>
        some { s.showAll [note (Log.error ("Failed to send message to server: "
          ++ (FrameError.transport why).failure.message))] with outbox := rest, phase := .waking }
    | _, _ => none
  | .acknowledge =>
    match s.turnsToQueue, s.outbox with
    | true, .mark ticket :: rest =>
      some { s with outbox := rest, acknowledged := s.acknowledged ++ [ticket] }
    | _, _ => none
  | .absorb chunk =>
    if s.turnsToStream && s.decoder.queue.isEmpty then
      let cut := s.decoder.absorb chunk
      let s := { s.showAll (cut.log.map (Shown.line Log.frameTarget)) with decoder := cut.decoder }
      -- at a fault the loop ends, and what was decoded in front of it stays in the decoder
      some (if cut.fault.isSome then { s with phase := .waking } else s.takeUp?.getD s)
    else none
  | .deliver => if s.turnsToStream then s.takeUp? else none
  | .dispatch =>
    match s.phase with
    | .handing text => some ({ s with phase := .running }.dispatch text)
    | _ => none
  | .loseStream =>
    if s.turnsToStream && s.decoder.queue.isEmpty then some { s with phase := .waking } else none
  -- the end takes three moves, and callers may have their turns in between
  | .wake => if s.phase = .waking then some { s.cancelWaiting with phase := .closing } else none
  | .close => if s.phase = .closing then some { s with phase := .dropping } else none
  | .drop => if s.phase = .dropping then some { s with phase := .ended, outbox := [] } else none

/-- A run of moves, when each can happen in its turn. -/
def moves? (s : Session) : List Move → Option Session
  | [] => some s
  | m :: rest => (s.move? m).bind (moves? · rest)

/-! ## What callers do -/

/-- Makes a move that can always happen. -/
def move (s : Session) (m : Move) : Session := (s.move? m).getD s

/-- The text of a call. -/
def requestText (id : Nat) (method : String) (params : Option Json) : String :=
  Request.text ⟨version, .int id, method, params⟩

/-- The failure of a message that the queue takes no more. -/
def unsent : RpcError := .transport "Outbound channel closed"

/-- Begins a call: it takes an id, is registered and queued.  Where the queue takes nothing any more
the call is withdrawn again. -/
def call (s : Session) (method : String) (params : Option Json) : Session × Except RpcError Nat :=
  let id := s.nextId
  let s := (s.move .allot).move (.register id)
  match s.move? (.post (requestText id method params)) with
  | some s => (s, .ok id)
  | none => (s.move (.withdraw id), .error unsent)

/-- Queues a notification. -/
def notify (s : Session) (method : String) (params : Option Json) : Session × Option RpcError :=
  match s.move? (.post (Notification.text ⟨version, method, params⟩)) with
  | some s => (s, none)
  | none => (s, some unsent)

/-- How a call was woken, if it was. -/
def wake? (s : Session) (id : Nat) : Option Wake := List.lookup id s.woken

/-- What a caller makes of being woken. -/
def outcome (form : Shape) : Wake → Except RpcError Json
  | .cancelled => .error .cancelled
  | .answered r =>
    match r.error with
    | some e => .error (.server e.code e.message e.data)
    | none =>
      match form.read (r.result.getD .null) with
      | .ok v => .ok v
      | .error m => .error (.badResult m.message)

end Session

end ServerLink.Rpc
