import ServerLink.Connection.Basic

/-!
# Documents and files

Only documents that the selector accepts when they are opened are followed; a later word about any
other is no error and goes nowhere.  `filterDocument` decides that, `checkRunning` asks whether the
connection runs, and `sendDocument` queues the notification.  Changes of watched files take the same
way without being asked: `receiveBatch` and `forward`.
-/

namespace ServerLink.Connection

/-- Decides whether a document is one of those that are forwarded.  A document that is closed stops
being open here already. -/
def filterDocument (c : Connection) (n : Nat) : Option Connection :=
  match c.calls[n]? with
  | some (.document (.asked r)) =>
    let known := match r with
      | .opened url language _ _ => c.config.selector.accepts url language
      | r => c.isOpen r.url
    if !known then some (c.put n (.document (.done (.ok false))))
    else
      let c := match r with
        | .closed url => { c with documents := c.documents.filter (· != url) }
        | _ => c
      some (c.put n (.document (.known r)))
  | _ => none

/-- Asks whether the connection runs. -/
def checkRunning (c : Connection) (n : Nat) : Option Connection :=
  match c.calls[n]?, c.holder with
  | some (.document (.known r)), none =>
    let stage : DocumentStage := match c.phase, c.running with
      | .running, true => .passed r
      | .running, false => .done (.error .serverExited)
      | _, _ => .done (.error .notStarted)
    some (c.put n (.document stage))
  | _, _ => none

/-- Queues what a call says about a document. -/
def queue (c : Connection) : Report → Rpc.Session × Option EditorError
  | .opened url language version text => c.client.didOpen c.session url language version text
  | .changed url version text => c.client.didChange c.session url version text
  | .saved url text => c.client.didSave c.session url text
  | .closed url => c.client.didClose c.session url

/-- Queues the notification about a document; a document that was opened is open from now on. -/
def sendDocument (c : Connection) (n : Nat) : Option Connection :=
  match c.calls[n]?, c.speaker with
  | some (.document (.passed r)), none =>
    match c.queue r with
    | (s, some e) =>
      some { c.put n (.document (.done (.error (.editor e)))) with session := s }
    | (s, none) =>
      let c := { c.put n (.document (.done (.ok true))) with session := s }
      some (match r with
        | .opened url _ _ _ =>
          if c.isOpen url then c else { c with documents := c.documents ++ [url] }
        | _ => c)
  | _, _ => none

/-- The forwarding worker takes a batch of changes. -/
def receiveBatch (c : Connection) (changes : List Watch.Change) : Option Connection :=
  match c.forwarder with
  | .listening =>
    let events := Watch.fileEvents changes
    if events.isEmpty then some c else some { c with forwarder := .holding events }
  | _ => none

/-- The forwarding worker queues the notification about a batch. -/
def forward (c : Connection) : Option Connection :=
  match c.forwarder, c.speaker with
  | .holding events, none =>
    let line := Log.debug
      ("Forwarding " ++ Decimal.ofNat events.length ++ " watched file change(s)")
    let c := { c.note line with forwarder := .listening }
    match c.client.didChangeFiles c.session events with
    | (s, none) => some { c with session := s }
    | (s, some e) =>
      some { c.note (Log.warn ("Failed to forward file changes: " ++ e.failure.message)) with
        session := s }
  | _, _ => none

end ServerLink.Connection
