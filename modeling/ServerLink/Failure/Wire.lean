import ServerLink.Failure.Basic
import ServerLink.Failure.System
import ServerLink.Json.Shape

/-!
# Failures on the wire

From the pipe upwards: `PipeError`, `FrameError`, `RpcError`, `EditorError`.  Each type lists the
causes of its layer, and its function `failure` gives wording and what lies beneath.
-/

namespace ServerLink

/-- Why a pipe to the server fails. -/
inductive PipeError where
  | system (e : SystemError)
  | disconnected
  | channel (text : String)

/-- What is known of a failure of a pipe. -/
def PipeError.failure : PipeError → Failure
  | system e => ⟨["Io"], "I/O error: " ++ e.message, [e.message]⟩
  | disconnected => .plain "Disconnected" "Transport is disconnected"
  | channel text => .plain "Channel" ("Channel error: " ++ text)

/-- Why a stream of frames fails; the text of a transport is its own. -/
inductive FrameError where
  | transport (text : String)
  | missingLength (text : String)
  | badLength (text : String)
  | tooLarge (size limit : Nat)
deriving DecidableEq, Repr

/-- What is known of a failure of a stream of frames. -/
def FrameError.failure : FrameError → Failure
  | transport text => .plain "Transport" ("Transport error: " ++ text)
  | missingLength text => .plain "InvalidFormat" ("Invalid LSP message format: " ++ text)
  | badLength text => .plain "InvalidContentLength" ("Invalid content length: " ++ text)
  | tooLarge size limit =>
    .plain "MessageTooLarge" ("Message too large: " ++ Decimal.ofNat size ++ " bytes (max: "
      ++ Decimal.ofNat limit ++ ")")

/-- Why a call fails. -/
inductive RpcError where
  | unreadable (text : String)
  | badMessage (text : String)
  | server (code : Int) (message : String) (data : Option Json)
  | transport (text : String)
  | unwritable (text : String)
  | badResult (text : String)
  | timeout
  | cancelled

/-- What is known of a failure of a call. -/
def RpcError.failure : RpcError → Failure
  | unreadable text => .plain "ParseError" ("JSON-RPC parse error: " ++ text)
  | badMessage text => .plain "InvalidRequest" ("JSON-RPC invalid message: " ++ text)
  | server code message _ =>
    .plain "Server" ("JSON-RPC server error (" ++ Decimal.ofInt code ++ "): " ++ message)
  | transport text => .plain "Transport" ("Transport error: " ++ text)
  | unwritable text => .plain "Serialization" ("Serialization error: " ++ text)
  | badResult text => .plain "Deserialization" ("Deserialization error: " ++ text)
  | timeout => .plain "Timeout" "Request timeout"
  | cancelled => .plain "RequestCancelled" "Request was cancelled"

/-- Why an operation of the editor's client fails. -/
inductive EditorError where
  | rpc (e : RpcError)
  | notReady
  | protocol (text : String)
  | badIdentifier (text : String)
  | unanswered (method : String)

/-- What is known of a failure of the editor's client. -/
def EditorError.failure : EditorError → Failure
  | rpc e => .wrap "JsonRpc" "JSON-RPC error: " e.failure
  | notReady => .plain "NotInitialized" "LSP client not initialized"
  | protocol text => .plain "Protocol" ("LSP protocol error: " ++ text)
  | badIdentifier text => .plain "InvalidUri" ("Invalid document URI: " ++ text)
  | unanswered method => .plain "RequestTimeout" ("LSP request timed out: " ++ method)

end ServerLink
