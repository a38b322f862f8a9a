import ServerLink.Editor.Capabilities
import ServerLink.Editor.ServerCalls
import ServerLink.Rpc.Session
import ServerLink.Url

/-!
# The editor's client

On top of a session the client keeps the order of the handshake: nothing is said about documents
before it, nothing after the farewell.

* `Client` — its name, and whether the handshake is done.
* `Client.openHandshake`, `closeHandshake` — before and after the server's answer.
* `Client.openFarewell`, `closeFarewell` — the same for the farewell.
* `Client.didOpen` and the others — notifications about documents and files.
-/

namespace ServerLink.Editor

open Rpc

/-- The client of an editor. -/
structure Client where
  name : String
  version : Option String
  processId : Nat
  /-- Whether the handshake is done and no farewell has begun. -/
  ready : Bool

namespace Client

/-- A client before its handshake. -/
def new (name : String) (version : Option String) (processId : Nat) : Client :=
  ⟨name, version, processId, false⟩

/-- What the session answers with and listens with for a client. -/
def handlers : Handlers :=
  ⟨some fun r => ((answer r).1, (answer r).2.map (.line Log.editorTarget)),
    some fun n => [.line Log.editorTarget (note n)]⟩

/-- The identifier of an address. -/
def identify (url : Url) : Except EditorError String :=
  match url.identifier? with
  | some s => .ok s
  | none => .error (.badIdentifier url.text)

/-- A call that was not answered in time. -/
def unanswered (method : String) : RpcError → EditorError
  | .timeout => .unanswered method
  | e => .rpc e

/-! ## Handshake and farewell -/

/-- The method of the handshake. -/
def handshakeMethod : String := "initialize"

/-- The notification after the handshake. -/
def readyMethod : String := "initialized"

/-- The method of the farewell. -/
def farewellMethod : String := "shutdown"

/-- The notification after the farewell. -/
def exitMethod : String := "exit"

/-- What the client says of itself and its workspace. -/
def handshakeParams (c : Client) (root : Option (Url × String)) : Json :=
  .obj ([
    ("capabilities", clientCapabilities),
    ("clientInfo", .obj (("name", .str c.name) ::
      Json.optField "version" (c.version.map .str))),
    ("processId", .int c.processId),
    ("rootUri", match root with
      | some (_, uri) => .str uri
      | none => .null)] ++
    Json.optField "workspaceFolders" (root.map fun (url, uri) =>
      .arr [.obj [("name", .str url.folderName), ("uri", .str uri)]]))

/-- The parameters of the handshake, unless it was done before or the root has no identifier. -/
def openHandshake (c : Client) (root : Option Url) : Except EditorError Json :=
  if c.ready then .error (.protocol "Client already initialized")
  else
    match root with
    | none => .ok (c.handshakeParams none)
    | some url => (identify url).map fun uri => c.handshakeParams (some (url, uri))

/-- After the server's answer to the handshake: it is confirmed. -/
def closeHandshake (c : Client) (s : Session) (answer : Except RpcError Json) :
    Client × Session × Except EditorError Json :=
  match answer with
  | .error e => (c, s, .error (unanswered handshakeMethod e))
  | .ok result =>
    match s.notify readyMethod (some (.obj [])) with
    | (s, some e) => (c, s, .error (.rpc e))
    | (s, none) => ({ c with ready := true }, s, .ok result)

/-- The client that begins its farewell. -/
def openFarewell (c : Client) : Client := { c with ready := false }

/-- After the server's answer to the farewell: it is told to leave. -/
def closeFarewell (s : Session) (answer : Except RpcError Json) : Session × Option EditorError :=
  match answer with
  | .error e => (s, some (unanswered farewellMethod e))
  | .ok _ =>
    let (s, e) := s.notify exitMethod none
    (s, e.map .rpc)

/-! ## Documents and files -/

/-- Queues a notification, once the handshake is done. -/
def tell (c : Client) (s : Session) (method : String) (params : Except EditorError Json) :
    Session × Option EditorError :=
  if !c.ready then (s, some .notReady)
  else
    match params with
    | .error e => (s, some e)
    | .ok params =>
      let (s, e) := s.notify method (some params)
      (s, e.map .rpc)

/-- A document was opened. -/
def didOpen (c : Client) (s : Session) (url : Url) (language : String) (version : Int)
    (text : String) : Session × Option EditorError :=
  c.tell s "textDocument/didOpen" ((identify url).map fun uri =>
    .obj [("textDocument", .obj [("languageId", .str language), ("text", .str text),
      ("uri", .str uri), ("version", .int version)])])

/-- A document has a new text. -/
def didChange (c : Client) (s : Session) (url : Url) (version : Int) (text : String) :
    Session × Option EditorError :=
  c.tell s "textDocument/didChange" ((identify url).map fun uri =>
    .obj [("contentChanges", .arr [.obj [("text", .str text)]]),
      ("textDocument", .obj [("uri", .str uri), ("version", .int version)])])

/-- A document was saved. -/
def didSave (c : Client) (s : Session) (url : Url) (text : Option String) :
    Session × Option EditorError :=
  c.tell s "textDocument/didSave" ((identify url).map fun uri =>
    .obj (Json.optField "text" (text.map .str) ++ [("textDocument", .obj [("uri", .str uri)])]))

/-- A document was closed. -/
def didClose (c : Client) (s : Session) (url : Url) : Session × Option EditorError :=
  c.tell s "textDocument/didClose" ((identify url).map fun uri =>
    .obj [("textDocument", .obj [("uri", .str uri)])])

/-- Files have changed; without changes there is nothing to tell. -/
def didChangeFiles (c : Client) (s : Session) (events : List Json) : Session × Option EditorError :=
  if c.ready && events.isEmpty then (s, none)
  else c.tell s "workspace/didChangeWatchedFiles" (.ok (.obj [("changes", .arr events)]))

end Client

end ServerLink.Editor
