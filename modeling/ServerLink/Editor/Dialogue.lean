import ServerLink.Editor.Client
import ServerLink.Rpc.Exchange

/-!
# A client in dialogue

A client is used by one caller at a time.  The handshake, the farewell and the end take their time:
the caller takes the turns of its call, the session and the server come in between, and it may give
up at any point.

* `Dialogue` — a client, the exchange of its session, and its `Business`: what it waits for.
* `Dialogue.openHandshake`, `openFarewell`, `close`, `say` — how each call of the caller begins.
* `Dialogue.answer?`, `release?` — how it goes on.
* `Dialogue.Step` — what can happen, and `Dialogue.act?` — a step, when it can happen, with the
  `Reply` to the call that it brings to its end.
-/

namespace ServerLink.Editor

open Rpc (Session Exchange)

/-- What a client waits for. -/
inductive Business where
  /-- Nothing: the next call can come. -/
  | idle
  /-- The answer to its handshake, by the number of the call. -/
  | greeting (n : Nat)
  /-- The answer to its farewell, by the number of the call. -/
  | parting (n : Nat)
  /-- All that is queued to be written. -/
  | closing
  /-- Nothing more; it is about to stop the session. -/
  | leaving

/-- A client, the exchange of its session, and what it waits for. -/
structure Dialogue where
  client : Client
  exchange : Exchange
  business : Business

/-- What there is to say about documents and files. -/
inductive Word where
  | opened (url : Url) (language : String) (version : Int) (text : String)
  | changed (url : Url) (version : Int) (text : String)
  | saved (url : Url) (text : Option String)
  | closed (url : Url)
  | files (events : List Json)

/-- Says it. -/
def Word.tell (w : Word) (c : Client) (s : Session) : Session × Option EditorError :=
  match w with
  | opened url language version text => c.didOpen s url language version text
  | changed url version text => c.didChange s url version text
  | saved url text => c.didSave s url text
  | closed url => c.didClose s url
  | files events => c.didChangeFiles s events

/-- What a call of the caller comes to. -/
inductive Reply where
  | greeted (r : Except EditorError Json)
  | parted (e : Option EditorError)
  | closed
  | said (e : Option EditorError)

namespace Dialogue

/-- What can happen to a client in dialogue. -/
inductive Step where
  /-- The caller asks for the handshake. -/
  | openHandshake (root : Option Url)
  /-- The caller asks for the farewell. -/
  | openFarewell
  /-- The caller asks for the end. -/
  | close
  /-- The caller has something to say. -/
  | say (w : Word)
  /-- The caller takes a turn of the call it waits for. -/
  | turn (t : Rpc.Turn)
  /-- The call is over, and the caller goes on from there. -/
  | answer
  /-- All that was queued is written, or it has taken too long. -/
  | release
  /-- The caller gives up waiting. -/
  | abandon
  /-- The session makes a move that is no caller's. -/
  | session (m : Rpc.Move)

/-- A client that was just connected. -/
def start (client : Client) : Dialogue :=
  ⟨client, Exchange.start.step (.session (.install Client.handlers)), .idle⟩

/-- Whether the next call can come. -/
def isIdle (d : Dialogue) : Bool :=
  match d.business with
  | .idle => true
  | _ => false

/-- The call that the client waits for. -/
def call? (d : Dialogue) : Option Nat :=
  match d.business with
  | .greeting n | .parting n => some n
  | _ => none

/-- Puts the session after a notification in its place. -/
def tell (d : Dialogue) (say : Client → Session → Session × Option EditorError) :
    Dialogue × Option EditorError :=
  let (s, e) := say d.client d.exchange.session
  ({ d with exchange := { d.exchange with session := s } }, e)

/-! ## How a call begins -/

/-- Begins a call and waits for it. -/
def begin (d : Dialogue) (method : String) (params : Option Json) (business : Nat → Business) :
    Dialogue :=
  { d with
    exchange := d.exchange.step (.begin method (.ok params))
    business := business d.exchange.calls.length }

/-- Opens the handshake. -/
def openHandshake (d : Dialogue) (root : Option Url) : Dialogue × Option Reply :=
  match d.client.openHandshake root with
  | .error e => (d, some (.greeted (.error e)))
  | .ok params => (d.begin Client.handshakeMethod (some params) .greeting, none)

/-- Opens the farewell; without a handshake there is none. -/
def openFarewell (d : Dialogue) : Dialogue × Option Reply :=
  if d.client.ready then
    ({ d with client := d.client.openFarewell }.begin Client.farewellMethod none .parting, none)
  else (d, some (.parted none))

/-- Begins the end. -/
def close (d : Dialogue) : Dialogue × Option Reply :=
  ({ client := d.client.openFarewell
     exchange := d.exchange.step (.session .mark)
     business := .closing }, none)

/-- Says something. -/
def say (d : Dialogue) (w : Word) : Dialogue × Option Reply :=
  let (d, e) := d.tell w.tell
  (d, some (.said e))

/-! ## How it goes on -/

/-- What came of a call, once it is over. -/
def result? (d : Dialogue) (form : Shape) (n : Nat) : Option (Except RpcError Json) :=
  d.exchange.calls[n]?.bind (·.result? form)

/-- Goes on with the handshake or the farewell once its call is over. -/
def answer? (d : Dialogue) : Option (Dialogue × Option Reply) :=
  match d.business with
  | .greeting n =>
    (d.result? handshakeShape n).map fun answer =>
      let (c, s, r) := d.client.closeHandshake d.exchange.session answer
      (⟨c, { d.exchange with session := s }, .idle⟩, some (.greeted r))
  | .parting n =>
    (d.result? .any n).map fun answer =>
      let (s, e) := Client.closeFarewell d.exchange.session answer
      (⟨d.client, { d.exchange with session := s }, .idle⟩, some (.parted e))
  | _ => none

/-- Goes on with the end. -/
def release? (d : Dialogue) : Option (Dialogue × Option Reply) :=
  match d.business with
  | .closing =>
    some ({ d with exchange := d.exchange.step (.session .cancelAll), business := .leaving }, none)
  | .leaving =>
    some ({ d with exchange := d.exchange.step (.session .stop), business := .idle }, some .closed)
  | _ => none

/-- The caller takes a turn of the call it waits for. -/
def turn? (d : Dialogue) (t : Rpc.Turn) : Option Dialogue :=
  d.call?.bind fun n => (d.exchange.step? (.turn n t)).map fun e => { d with exchange := e }

/-! ## Steps -/

/-- A step, when it can happen, with the reply to the call that comes to its end. -/
def act? (d : Dialogue) : Step → Option (Dialogue × Option Reply)
  | .openHandshake root => if d.isIdle then some (d.openHandshake root) else none
  | .openFarewell => if d.isIdle then some d.openFarewell else none
  | .close => if d.isIdle then some d.close else none
  | .say w => if d.isIdle then some (d.say w) else none
  | .turn t => (d.turn? t).map (·, none)
  | .answer => d.answer?
  | .release => d.release?
  | .abandon => if d.isIdle then none else some ({ d with business := .idle }, none)
  | .session m => (d.exchange.step? (.session m)).map fun e => ({ d with exchange := e }, none)

/-- A step, when it can happen. -/
def step? (d : Dialogue) (st : Step) : Option Dialogue := (d.act? st).map Prod.fst

/-- The reply to the call that a step brings to its end. -/
def reply? (d : Dialogue) (st : Step) : Option Reply := (d.act? st).bind Prod.snd

end Dialogue

end ServerLink.Editor
