import ServerLink.Editor.Dialogue
import ServerLink.Rpc.World

/-!
# A client on its session

A client together with the world of its session: calls are made and waited for.

* `Visit.take` — a step of the client's dialogue.
* `Visit.open`, `Visit.farewell`, `Visit.close` — the handshake, the farewell, and the end.
* `Visit.tell` — a notification.
-/

namespace ServerLink.Editor

/-- A client and the world of its session. -/
structure Visit where
  world : Rpc.World
  client : Client
  business : Business
  /-- How long the server may take to answer, in milliseconds. -/
  patience : Nat

namespace Visit

/-- The client in dialogue. -/
def dialogue (v : Visit) : Dialogue := ⟨v.client, v.world.toExchange, v.business⟩

/-- Goes on with the dialogue. -/
def follow (v : Visit) (d : Dialogue) : Visit :=
  { v with
    world := { v.world with toExchange := d.exchange }
    client := d.client
    business := d.business }

/-- A client that has just been connected. -/
def start (stream : Transport.Scripted) (client : Client) (patience : Nat) : Visit :=
  let d := Dialogue.start client
  ⟨{ Rpc.World.start stream with toExchange := d.exchange }, d.client, d.business, patience⟩

/-- Takes a step if it can happen, with the reply to the call that comes to its end. -/
def take (v : Visit) (st : Dialogue.Step) : Visit × Option Reply :=
  match v.dialogue.act? st with
  | some (d, r) => (v.follow d, r)
  | none => (v, none)

/-- Takes the turns of the call that the client waits for, until it is over. -/
def await (v : Visit) (timeout : Nat) : Visit :=
  let v := (((v.take (.turn .register)).1.take (.turn .post)).1.take (.turn .withdraw)).1
  let w := Rpc.World.expire
    { v.world with deadlines := v.world.deadlines ++ [v.world.now + timeout] }
  let w := match v.dialogue.call? with
    | some n => w.await n
    | none => w
  (({ v with world := w } : Visit).take (.turn .finish)).1

/-- Opens the handshake and waits for the server's answer. -/
def openWith (v : Visit) (root : Option Url) (timeout : Nat) : Visit × Except EditorError Json :=
  match v.take (.openHandshake root) with
  | (v, some (.greeted r)) => (v, r)
  | (v, _) =>
    match (v.await timeout).take .answer with
    | (v, some (.greeted r)) => (v, r)
    | (v, _) => (v, .error (.unanswered Client.handshakeMethod))

/-- Says farewell, if the handshake was done. -/
def farewell (v : Visit) : Visit × Option EditorError :=
  match v.take .openFarewell with
  | (v, some (.parted e)) => (v, e)
  | (v, _) =>
    match (v.await v.patience).take .answer with
    | (v, some (.parted e)) => (v, e)
    | (v, _) => (v, some (.unanswered Client.farewellMethod))

/-- Closes the session. -/
def close (v : Visit) : Visit :=
  let v := (v.take .close).1
  let v := (({ v with world := v.world.settle } : Visit).take .release).1
  let v := (v.take .release).1
  { v with world := v.world.settle }

/-- Queues a notification. -/
def tell (v : Visit) (say : Client → Rpc.Session → Rpc.Session × Option EditorError) :
    Visit × Option EditorError :=
  let (d, e) := v.dialogue.tell say
  (v.follow d, e)

end Visit

end ServerLink.Editor
