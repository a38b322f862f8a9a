import ServerLink.Transport.Scripted

/-!
# Messages over a stream

* `Framed` — a stream with the decoder of what arrives on it.
* `Framed.receive` — the next message; chunks are taken from the stream until one is whole.
* `Framed.send` — sends a message as a frame.
-/

namespace ServerLink.Transport

/-- A stream and the decoder of what arrives on it. -/
structure Framed where
  decoder : Frame.Decoder
  stream : Scripted

/-- What comes of receiving a message. -/
inductive Delivery where
  | message (text : String)
  | failed (e : FrameError)
  | waiting

namespace Framed

/-- A stream on which nothing has arrived. -/
def ofStream (s : Scripted) : Framed := ⟨.empty, s⟩

/-- Receives a message, with at most `fuel` chunks. -/
def receiveWithin (fuel : Nat) (f : Framed) : Delivery × Framed :=
  match f.decoder.next? with
  | some (text, d) => (.message text, { f with decoder := d })
  | none =>
    match fuel with
    | 0 => (.waiting, f)
    | fuel + 1 =>
      match f.stream.receive with
      | (.waiting, s) => (.waiting, { f with stream := s })
      | (.failed text, s) => (.failed (.transport text), { f with stream := s })
      | (.chunk c, s) =>
        let cut := f.decoder.absorb c
        match cut.fault with
        | some e => (.failed e, ⟨cut.decoder, s⟩)
        | none => receiveWithin fuel ⟨cut.decoder, s⟩

/-- Receives a message. -/
def receive (f : Framed) : Delivery × Framed := receiveWithin (f.stream.inbound.length + 1) f

/-- Sends a message: its frame, as one chunk. -/
def send (f : Framed) (message : String) : Except FrameError Framed :=
  match f.stream.send (Frame.ofMessage message) with
  | .ok s => .ok { f with stream := s }
  | .error why => .error (.transport why)

end Framed

end ServerLink.Transport
