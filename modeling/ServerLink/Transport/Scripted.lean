import ServerLink.Frame
import ServerLink.Json.Reader
import ServerLink.Json.Writer

/-!
# A stream that follows a script

A stream without a server behind it: chunks wait to be received, and what is sent sets off replies.

* `Scripted` — the state of the stream.
* `Rule` — the replies to a message of a method.
* `Scripted.receive`, `Scripted.send` — both directions.
-/

namespace ServerLink.Transport

/-- What a message sets off. -/
inductive Reply where
  /-- Bytes to be received. -/
  | chunk (bytes : Bytes)
  /-- Nothing more arrives after what waits. -/
  | finish
  /-- An answer, to the message that was sent unless an id is given. -/
  | response (id result error : Option Json)

/-- The replies to messages of a method.  Messages without one are responses. -/
structure Rule where
  method : String
  replies : List Reply

/-- The state of a scripted stream. -/
structure Scripted where
  inbound : List Bytes
  holdsOpen : Bool
  rules : List Rule
  refuses : Bool
  closed : Bool
  /-- Whether what is sent comes back as it is. -/
  echoes : Bool

/-- What comes of receiving. -/
inductive Receipt where
  | chunk (bytes : Bytes)
  | failed (text : String)
  | waiting

/-- The text of a stream that was closed. -/
def closedText : String := "Transport is disconnected"

/-- The method of messages without one. -/
def responseMethod : String := "<response>"

namespace Scripted

/-- Receives the next chunk. -/
def receive (t : Scripted) : Receipt × Scripted :=
  if t.closed then (.failed closedText, t)
  else
    match t.inbound with
    | c :: rest => (.chunk c, { t with inbound := rest })
    | [] => if t.holdsOpen then (.waiting, t) else (.failed "No more responses available", t)

/-- The fields of an answer. -/
def answerFields (sentId : Json) (id result error : Option Json) : List (String × Json) :=
  ("jsonrpc", .str "2.0") :: ("id", id.getD sentId) ::
    (Json.optField "result" result ++ Json.optField "error" error)

/-- Carries a reply out. -/
def reply (sentId : Json) (t : Scripted) : Reply → Scripted
  | .chunk bytes => { t with inbound := t.inbound ++ [bytes] }
  | .finish => { t with holdsOpen := false }
  | .response id result error =>
    let text := (Json.ofFields (answerFields sentId id result error)).write
    { t with inbound := t.inbound ++ [Frame.ofMessage text] }

/-- The message in a chunk that was sent: what stands behind the first empty line. -/
def sentMessage (chunk : Bytes) : String :=
  match Frame.cutBlock? [] chunk with
  | some (_, body) => Frame.message body
  | none => Frame.message chunk

/-- Sends a chunk: the stream after it, or why it was refused. -/
def send (t : Scripted) (chunk : Bytes) : Except String Scripted :=
  if t.closed then .error closedText
  else if t.refuses then .error "Broken pipe"
  else
    let sent := match Json.parse (sentMessage chunk) with
      | .ok v => v
      | .error _ => .null
    let method := ((sent.field? "method").bind Json.str?).getD responseMethod
    let replies := (t.rules.filter (·.method = method)).flatMap (·.replies)
    let echo := if t.echoes then [Reply.chunk chunk] else []
    .ok ((echo ++ replies).foldl (reply ((sent.field? "id").getD .null)) t)

end Scripted

end ServerLink.Transport
