import ServerLink.Rehearsal.Site
import ServerLink.Transport.Scripted

/-!
# Servers for rehearsals

* `Conduct` — how a server behaves.
* `Conduct.stream` — the stream behind which it stands.
* `Server.ofProgram` — what well-known programs are as servers.

A server that is gone leaves a stream that no longer holds open.
-/

namespace ServerLink.Rehearsal

open Transport

/-- How a server answers the opening of the handshake. -/
inductive Greeting where
  | welcome
  | silence
  | exit
  | noise
  | brokenHeader
  | refusal
  | wrongResult
deriving DecidableEq

/-- How a server answers the farewell. -/
inductive Farewell where
  | answer
  | silence
  | refusal
deriving DecidableEq

/-- How a server behaves. -/
structure Conduct where
  greeting : Greeting
  farewell : Farewell
  /-- The texts that it sends once the handshake is done. -/
  requests : List Bytes
  /-- The code with which it is gone once the handshake is done. -/
  exitsWhenReady : Option Nat
  exitsOnSave : Bool
  ignoresExit : Bool
  logsLaunch : Bool
  /-- The lines that it writes to standard error when it is launched. -/
  complaints : List String

/-- A server that does what is expected of it. -/
def Conduct.usual : Conduct := ⟨.welcome, .answer, [], none, false, false, false, []⟩

namespace Conduct

/-- An answer of some value. -/
def answer (result : Json) : Reply := .response none (some result) none

/-- A refusal with a number and a text. -/
def refuse (code : Int) (text : String) : Reply :=
  .response none none (some (.obj [("code", .int code), ("message", .str text)]))

/-- What the opening of the handshake sets off. -/
def greetingReplies : Greeting → List Reply
  | .welcome =>
    [answer (.obj [("capabilities", .obj []),
      ("serverInfo", .obj [("name", .str "fake"), ("version", .str "1")])])]
  | .silence => []
  | .exit => [.finish]
  | .noise => [.chunk (Frame.ofMessage "not json")]
  | .brokenHeader => [.chunk (Utf8.ofString "Content-Length: x\r\n\r\n")]
  | .refusal => [refuse (-32002) "refused"]
  | .wrongResult => [answer (.obj [("capabilities", .int 5)])]

/-- What the farewell sets off. -/
def farewellReplies : Farewell → List Reply
  | .answer => [answer .null]
  | .silence => []
  | .refusal => [refuse (-32603) "busy"]

/-- What messages of each method set off. -/
def rules (c : Conduct) : List Rule :=
  [⟨"initialize", greetingReplies c.greeting⟩,
    ⟨"initialized", c.requests.map (fun b => .chunk (Frame.encode b))
      ++ (if c.exitsWhenReady.isSome then [.finish] else [])⟩,
    ⟨"textDocument/didSave", if c.exitsOnSave then [.finish] else []⟩,
    ⟨"shutdown", farewellReplies c.farewell⟩,
    ⟨"exit", if c.ignoresExit then [] else [.finish]⟩]

/-- The stream behind which a server stands. -/
def stream (c : Conduct) : Scripted := ⟨[], true, c.rules, false, false, false⟩

/-- The code with which a server is gone that left by itself. -/
def exitCode (c : Conduct) : Nat :=
  if c.exitsOnSave then 4 else c.exitsWhenReady.getD 0

end Conduct

/-- A server: what it does when launched, and whether it logs what it receives. -/
structure Server where
  stream : Scripted
  exitCode : Nat
  logs : Bool
  logsLaunch : Bool
  complaints : List String

/-- A server that behaves in some way. -/
def Server.ofConduct (c : Conduct) : Server :=
  ⟨c.stream, c.exitCode, true, c.logsLaunch, c.complaints⟩

/-- A server that is gone at once. -/
def Server.gone (code : Nat) : Server :=
  ⟨⟨[], false, [], false, false, false⟩, code, false, false, []⟩

/-- What a well-known program without arguments is as a server: one that copies its input, one that
waits for it to end, or one that is gone at once. -/
def Server.ofProgram (name : Bytes) : Server :=
  if name = Utf8.ofString "cat" then ⟨⟨[], true, [], false, false, true⟩, 0, false, false, []⟩
  else if name = Utf8.ofString "sh" then
    ⟨⟨[], true, [], false, false, false⟩, 127, false, false, []⟩
  else if name = Utf8.ofString "sleep" then .gone 1
  else .gone 0

end ServerLink.Rehearsal
