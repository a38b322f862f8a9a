import ServerLink.Log
import ServerLink.Rpc.Message

/-!
# Calls from the server

The server may call its client too.

* `answer` — the reply to a request, and what is logged.  Progress tokens and registrations are
  acknowledged, settings are left to the server's defaults, everything else is refused.
* `note` — what is logged about a notification.
-/

namespace ServerLink.Editor

open Rpc

/-- How many settings a request asks for. -/
def settingsAsked (params : Option Json) : Nat :=
  (((params.bind (·.field? "items")).bind Json.arr?).map List.length).getD 0

/-- The reply to a request of the server, and what is logged. -/
def answer (r : Request) : Response × List Log.Line :=
  match r.method with
  | "window/workDoneProgress/create" | "client/registerCapability" => (.done r.id, [])
  | "workspace/configuration" =>
    (.success r.id (.arr (List.replicate (settingsAsked r.params) .null)), [])
  | method =>
    (.methodNotFound r.id method, [Log.warn ("Unhandled server request: " ++ method)])

/-- The level at which the server wants a message logged. -/
def messageLevel (params : Json) : Log.Level :=
  match params.field? "type" with
  | some (.int 1) => .error
  | some (.int 2) => .warn
  | some (.int 3) => .info
  | _ => .debug

/-- What is logged about a notification of the server. -/
def note (n : Notification) : Log.Line :=
  let params := n.params.getD .null
  match n.method with
  | "window/logMessage" | "window/showMessage" =>
    ⟨messageLevel params, "confit-lsp: " ++ textAt params "message"⟩
  | "textDocument/publishDiagnostics" =>
    let count := (((params.field? "diagnostics").bind Json.arr?).map List.length).getD 0
    ⟨.debug, "Diagnostics for " ++ textAt params "uri" ++ ": " ++ Decimal.ofNat count ++ " item(s)"⟩
  | method => ⟨.trace, "Ignoring server notification: " ++ method⟩

end ServerLink.Editor
