import ServerLink.Config
import ServerLink.Failure.Link
import ServerLink.Json.Reader

/-!
# Failures by their names

A failure is told by the names of its layers, from the outside in, and by the **details** that it
carries.

* `Details` — what a failure may carry; a failure takes what it needs.
* `Details.rpc`, `Details.connection` and others — the failures of one layer.
* `Details.failure` — any failure, its names beginning with that of the outermost layer.

A name that a layer does not know stands for the last of its failures.
-/

namespace ServerLink

/-- What a failure may carry. -/
structure Details where
  text : String
  /-- The number of an error of the system, if it has one. -/
  number : Option Nat
  code : Int
  data : Option Json
  /-- A text that is no JSON value. -/
  document : String
  command : String
  path : Path
  timeout : Duration
  pattern : String
  size : Nat
  limit : Nat

namespace Details

/-- The error of the system. -/
def system (d : Details) : SystemError := (d.number.map .numbered).getD (.worded d.text)

/-- Why the document cannot be read. -/
def fault (d : Details) : String :=
  match Json.parse d.document with
  | .ok _ => ""
  | .error e => e

/-- The failures of a call. -/
def rpc (d : Details) : List String → RpcError
  | "ParseError" :: _ => .unreadable d.text
  | "InvalidRequest" :: _ => .badMessage d.text
  | "Server" :: _ => .server d.code d.text d.data
  | "Transport" :: _ => .transport d.text
  | "Serialization" :: _ => .unwritable d.fault
  | "Deserialization" :: _ => .badResult d.fault
  | "Timeout" :: _ => .timeout
  | _ => .cancelled

/-- The failures of the editor's client. -/
def editor (d : Details) : List String → EditorError
  | "JsonRpc" :: rest => .rpc (d.rpc rest)
  | "Protocol" :: _ => .protocol d.text
  | "InvalidUri" :: _ => .badIdentifier d.text
  | "RequestTimeout" :: _ => .unanswered d.text
  | _ => .notReady

/-- The failures of the process. -/
def process (d : Details) : List String → ProcessError
  | "Spawn" :: _ => .spawn d.command d.system
  | "Io" :: _ => .system d.system
  | "AlreadyStarted" :: _ => .alreadyStarted
  | "StdinNotAvailable" :: _ => .noInput
  | "StdoutNotAvailable" :: _ => .noOutput
  | "StderrNotAvailable" :: _ => .noErrors
  | _ => .notStarted

/-- The failures of the watch. -/
def watch (d : Details) : List String → WatchError
  | "Create" :: _ => .create d.system
  | _ => .watch d.path d.system

/-- The reasons for which a configuration is refused. -/
def config (d : Details) : List String → ConfigError
  | "InvalidTimeout" :: _ => .badTimeout d.timeout d.text
  | "InvalidWatchPattern" :: _ =>
    match Config.readPattern d.pattern with
    | .error e => e
    | .ok p => .badPattern p.text ""
  | _ => .badSelector d.text

/-- The failures of a connection. -/
def connection (d : Details) : List String → ConnectionError
  | "Lsp" :: rest => .editor (d.editor rest)
  | "Process" :: rest => .process (d.process rest)
  | "Watch" :: rest => .watch (d.watch rest)
  | "InvalidWorkspaceRoot" :: _ => .badRoot d.path
  | "AlreadyStarted" :: _ => .alreadyStarted
  | "NotStarted" :: _ => .notStarted
  | "ServerExited" :: _ => .serverExited
  | "Stopped" :: _ => .stopped
  | _ => .cancelled

/-- The failures of an activation. -/
def lifecycle (d : Details) : List String → LifecycleError
  | "Config" :: rest => .config (d.config rest)
  | "Connection" :: rest => .connection (d.connection rest)
  | _ => .alreadyStarted

/-- The failures of a pipe. -/
def pipe (d : Details) : List String → PipeError
  | "Io" :: _ => .system d.system
  | "Channel" :: _ => .channel d.text
  | _ => .disconnected

/-- The failures of a stream of frames over a pipe. -/
def framing (d : Details) : List String → FrameError
  | "Transport" :: rest => .transport (d.pipe rest).failure.message
  | "InvalidFormat" :: _ => .missingLength d.text
  | "InvalidContentLength" :: _ => .badLength d.text
  | _ => .tooLarge d.size d.limit

/-- The failures to learn the environment. -/
def discovery (d : Details) : List String → DiscoveryError
  | "Lookup" :: _ => .lookup d.text
  | "Activation" :: _ => .activation d.text
  | _ => .notActivated

/-- Any failure; the first name is that of its outermost layer. -/
def failure (d : Details) : List String → Failure
  | "Lifecycle" :: rest => (d.lifecycle rest).failure
  | "Connection" :: rest => (d.connection rest).failure
  | "Config" :: rest => (d.config rest).failure
  | "Lsp" :: rest => (d.editor rest).failure
  | "JsonRpc" :: rest => (d.rpc rest).failure
  | "Process" :: rest => (d.process rest).failure
  | "Watch" :: rest => (d.watch rest).failure
  | "Stdio" :: rest => (d.pipe rest).failure
  | "Framing" :: rest => (d.framing rest).failure
  | _ :: rest => (d.discovery rest).failure
  | [] => DiscoveryError.notActivated.failure

end Details

end ServerLink
