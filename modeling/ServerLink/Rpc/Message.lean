import ServerLink.Failure.Wire
import ServerLink.Json.Reader
import ServerLink.Json.Writer

/-!
# Messages of remote calls

* `Request`, `Notification`, `Response` — the three messages; `text` writes each with its fields in
  a fixed order and absent ones left out.
* `Response.success`, `Response.refusal` and others — the replies that are ever given.
* `Inbound.read` — sorts a text by its fields: a method and an id make a request, a method alone a
  notification, anything else has to be a response.
-/

namespace ServerLink.Rpc

/-- The version that every message names. -/
def version : String := "2.0"

/-- A call that expects a reply. -/
structure Request where
  jsonrpc : String
  id : Json
  method : String
  params : Option Json

/-- A call without a reply. -/
structure Notification where
  jsonrpc : String
  method : String
  params : Option Json

/-- Why a call was refused. -/
structure Refusal where
  code : Int
  message : String
  data : Option Json

/-- The reply to a call. -/
structure Response where
  jsonrpc : String
  id : Json
  result : Option Json
  error : Option Refusal

/-! ## Written messages -/

/-- The fields of a request. -/
def Request.fields (r : Request) : List (String × Json) :=
  ("jsonrpc", .str r.jsonrpc) :: ("id", r.id) :: ("method", .str r.method) ::
    Json.optField "params" r.params

/-- The text of a request. -/
def Request.text (r : Request) : String := Json.writeFields r.fields

/-- The fields of a notification. -/
def Notification.fields (n : Notification) : List (String × Json) :=
  ("jsonrpc", .str n.jsonrpc) :: ("method", .str n.method) :: Json.optField "params" n.params

/-- The text of a notification. -/
def Notification.text (n : Notification) : String := Json.writeFields n.fields

/-- The fields of a refusal. -/
def Refusal.fields (e : Refusal) : List (String × Json) :=
  ("code", .int e.code) :: ("message", .str e.message) :: Json.optField "data" e.data

/-- A refusal as a value. -/
def Refusal.toJson (e : Refusal) : Json := .obj e.fields

/-- The fields of a response. -/
def Response.fields (r : Response) : List (String × Json) :=
  ("jsonrpc", .str r.jsonrpc) :: ("id", r.id) ::
    (Json.optField "result" r.result ++ Json.optField "error" (r.error.map Refusal.toJson))

/-- The text of a response. -/
def Response.text (r : Response) : String := Json.writeFields r.fields

/-! ## Replies -/

/-- The number for a method that is not known. -/
def methodNotFoundCode : Int := -32601

/-- The number for parameters that do not fit. -/
def badParamsCode : Int := -32602

/-- The reply to a call that succeeded. -/
def Response.success (id result : Json) : Response := ⟨version, id, some result, none⟩

/-- The reply to a call that succeeded and has nothing to say. -/
def Response.done (id : Json) : Response := .success id .null

/-- The reply to a call that was refused. -/
def Response.refusal (id : Json) (code : Int) (message : String) : Response :=
  ⟨version, id, none, some ⟨code, message, none⟩⟩

/-- The reply to a call of a method that is not known. -/
def Response.methodNotFound (id : Json) (method : String) : Response :=
  .refusal id methodNotFoundCode ("Method not found: " ++ method)

/-! ## Read messages -/

/-- The form of a request. -/
def requestShape : Shape :=
  .record "JsonRpcRequest"
    [("jsonrpc", .text), ("id", .any), ("method", .text), ("params", .optional .any)]

/-- The form of a notification. -/
def notificationShape : Shape :=
  .record "JsonRpcNotification" [("jsonrpc", .text), ("method", .text), ("params", .optional .any)]

/-- The form of a refusal. -/
def refusalShape : Shape :=
  .record "JsonRpcErrorObject"
    [("code", .integer32), ("message", .text), ("data", .optional .any)]

/-- The form of a response. -/
def responseShape : Shape :=
  .record "JsonRpcResponse"
    [("jsonrpc", .text), ("id", .any), ("result", .optional .any),
      ("error", .optional refusalShape)]

/-- The text at a name of a value in normal form. -/
def textAt (v : Json) (name : String) : String := ((v.field? name).bind Json.str?).getD ""

/-- The number at a name of a value in normal form. -/
def numberAt (v : Json) (name : String) : Int :=
  match v.field? name with
  | some (.int n) => n
  | _ => 0

/-- A request from its normal form. -/
def Request.ofNormal (v : Json) : Request :=
  ⟨textAt v "jsonrpc", (v.field? "id").getD .null, textAt v "method", v.field? "params"⟩

/-- A notification from its normal form. -/
def Notification.ofNormal (v : Json) : Notification :=
  ⟨textAt v "jsonrpc", textAt v "method", v.field? "params"⟩

/-- A refusal from its normal form. -/
def Refusal.ofNormal (v : Json) : Refusal :=
  ⟨numberAt v "code", textAt v "message", v.field? "data"⟩

/-- A response from its normal form. -/
def Response.ofNormal (v : Json) : Response :=
  ⟨textAt v "jsonrpc", (v.field? "id").getD .null, v.field? "result",
    (v.field? "error").map Refusal.ofNormal⟩

/-- A message that arrived. -/
inductive Inbound where
  | request (r : Request)
  | notification (n : Notification)
  | response (r : Response)

/-- A message as text again. -/
def Inbound.text : Inbound → String
  | request r => r.text
  | notification n => n.text
  | response r => r.text

/-- Sorts a value by its fields. -/
def Inbound.ofJson (v : Json) : Except Shape.Mismatch Inbound :=
  let hasMethod := (v.field? "method").isSome
  let hasId := (v.field? "id").any (!·.isNull)
  if hasMethod && hasId then (requestShape.read v).map (.request ∘ Request.ofNormal)
  else if hasMethod then (notificationShape.read v).map (.notification ∘ Notification.ofNormal)
  else (responseShape.read v).map (.response ∘ Response.ofNormal)

/-- Reads the text of a message. -/
def Inbound.read (text : String) : Except RpcError Inbound :=
  match Json.parse text with
  | .error fault => .error (.unreadable fault)
  | .ok v =>
    match Inbound.ofJson v with
    | .error mismatch => .error (.badMessage mismatch.message)
    | .ok m => .ok m

end ServerLink.Rpc
