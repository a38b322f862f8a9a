import ServerLink.Connection.Basic

/-!
# Starting a connection

The moves of a call of start, one function each, in their order:

* `lockForStart` takes the lock, and `launch` starts the server.
* `installHandlers` says who answers the server and who listens to it.
* `sendInitialize` opens the handshake; `finishInitialize` closes it, or `expireInitialize` when its
  time is up.
* `markRunning`, `checkAlive` and `finishStart` make the connection one that runs.

Wherever a launch may wait for something it may be asked to give up, which is `abortStart`; one that
fails once the server was launched ends with `finishDiscard`.
-/

namespace ServerLink.Connection

open Process

/-- The root of the workspace as an address. -/
def rootUrl? (c : Connection) : Option Url :=
  (c.config.workspaceRoot.madeAbsolute? c.home).bind Url.ofDirectory?

/-- Takes the lock, and refuses a connection that is not idle. -/
def lockForStart (c : Connection) (n : Nat) : Option Connection :=
  match c.calls[n]?, c.holder with
  | some (.start .waiting), none =>
    match c.phase with
    | .idle =>
      let line := Log.info ("Starting " ++ serverName ++ " from " ++ c.config.command.display)
      some { (c.put n (.start .entered)).note line with holder := some n }
    | .running => some (c.refuseStart n .alreadyStarted)
    | .stopped => some (c.refuseStart n .stopped)
  | _, _ => none

/-- Fails after the server was launched: a server that is known to be running is ended first. -/
def discard (c : Connection) (n : Nat) (e : ConnectionError) : Connection :=
  let c := c.dropClient
  match c.process.state.pid? with
  | some pid =>
    { c.put n (.start (.discarding e)) with process := c.process.move (.exit pid none) }
  | none => c.failStart n e

/-- Opens the handshake. -/
def openHandshake (c : Connection) (n : Nat) (root : Url) : Connection :=
  let c := c.noteAt Log.editorTarget (Log.info "Initializing LSP client")
  match c.client.openHandshake (some root) with
  | .error e => c.discard n (.editor e)
  | .ok params =>
    match c.session.call Editor.Client.handshakeMethod (some params) with
    | (s, .ok id) => { c.put n (.start (.initializing id)) with session := s }
    | (s, .error e) => { c with session := s }.discard n (.editor (.rpc e))

/-- Launches the server, with the outcome of the launch. -/
def launch (c : Connection) (n : Nat) (outcome : Except SystemError Nat) : Option Connection :=
  match c.calls[n]? with
  | some (.start .entered) =>
    if c.cancelled then some (c.failStart n .cancelled)
    else
      match c.rootUrl? with
      | none => some (c.failStart n (.badRoot c.config.workspaceRoot))
      | some root =>
        let line := Log.info ("Starting server process: " ++ c.config.command.display)
        let c := { c.noteAt Log.processTarget line with launches := c.launches + 1 }
        match c.process.start c.config.command outcome with
        | (_, some e) => some (c.failStart n (.process e))
        | (p, none) => some { c.put n (.start (.spawned root)) with process := p.takePipe.1 }
  | _ => none

/-- Says who answers the server's requests, and then who hears its notifications. -/
def installHandlers (c : Connection) (n : Nat) : Option Connection :=
  match c.calls[n]? with
  | some (.start (.spawned root)) =>
    let answers := { Editor.Client.handlers with onNotification := none }
    some { c.put n (.start (.answering root)) with session := c.session.move (.install answers) }
  | some (.start (.answering root)) =>
    some { c.put n (.start (.equipped root)) with
      session := c.session.move (.install Editor.Client.handlers) }
  | _ => none

/-- Opens the handshake with the server. -/
def sendInitialize (c : Connection) (n : Nat) : Option Connection :=
  match c.calls[n]? with
  | some (.start (.equipped root)) => some (c.openHandshake n root)
  | _ => none

/-- Gives a start up that was asked to: the server is killed. -/
def abortStart (c : Connection) (n : Nat) : Option Connection :=
  if !c.cancelled then none
  else
    match c.calls[n]? with
    | some (.start (.spawned _)) | some (.start (.answering _)) | some (.start (.equipped _))
    | some (.start (.initializing _)) | some (.start (.discarding _)) =>
      some (c.dropClient.killServer.failStart n .cancelled)
    | _ => none

/-- What is logged of a handshake that is done. -/
def initializedLine (answer : Json) : Log.Line :=
  match answer.field? "serverInfo" with
  | some server => Log.info ("LSP client initialized against " ++ Rpc.textAt server "name" ++ " "
      ++ Rpc.textAt server "version")
  | none => Log.info "LSP client initialized"

/-- What is logged of a watch that has begun, with the real path of its root. -/
def watchBegun (config : Config) (root : Path) : Log.Shown :=
  .record ⟨Log.watchTarget, Log.info "Started file watcher",
    [("path", root.display), ("glob", config.watch.text),
      ("debounce_ms", Decimal.ofNat (config.watchDelay.nanoseconds / 1000000))]⟩

/-- Closes the handshake with the server's answer and begins to watch, with the outcome of that: the
real path of the root. -/
def closeHandshake (c : Connection) (n : Nat) (answer : Except RpcError Json)
    (watch : Except WatchError Path) : Connection :=
  match c.client.closeHandshake c.session answer with
  | (client, s, .error e) => { c with client, session := s }.discard n (.editor e)
  | (client, s, .ok answer) =>
    let c := { c with client, session := s }.noteAt Log.editorTarget (initializedLine answer)
    match watch with
    | .error e => c.discard n (.watch e)
    | .ok root =>
      { c.put n (.start .launched) with
        forwarder := .listening, shown := c.shown ++ [watchBegun c.config root] }

/-- Goes on once the call of the handshake was woken. -/
def finishInitialize (c : Connection) (n : Nat) (watch : Except WatchError Path) :
    Option Connection :=
  match c.calls[n]? with
  | some (.start (.initializing id)) =>
    if c.cancelled then none
    else
      (c.session.wake? id).map fun wake =>
        c.closeHandshake n (Rpc.Session.outcome Editor.handshakeShape wake) watch
  | _ => none

/-- Goes on when the server did not answer in time. -/
def expireInitialize (c : Connection) (n : Nat) : Option Connection :=
  match c.calls[n]? with
  | some (.start (.initializing id)) =>
    if c.cancelled || (c.session.wake? id).isSome then none
    else
      some ({ c with session := c.session.move (.withdraw id) }.closeHandshake n
        (.error .timeout) (.ok c.config.workspaceRoot))
  | _ => none

/-- Ends a start that failed, once the server is gone or is no longer waited for. -/
def finishDiscard (c : Connection) (n : Nat) : Option Connection :=
  match c.calls[n]? with
  | some (.start (.discarding e)) =>
    if c.cancelled then none
    else some ({ c with process := c.process.finishStop }.failStart n e)
  | _ => none

/-- Marks the connection as running. -/
def markRunning (c : Connection) (n : Nat) : Option Connection :=
  match c.calls[n]? with
  | some (.start .launched) => some { c.put n (.start .marked) with running := true }
  | _ => none

/-- Looks whether the server is alive. -/
def checkAlive (c : Connection) (n : Nat) : Option Connection :=
  match c.calls[n]? with
  | some (.start .marked) => some (c.put n (.start (.checked c.process.isRunning)))
  | _ => none

/-- Ends a start that succeeded; a server that was seen dead takes the mark back. -/
def finishStart (c : Connection) (n : Nat) : Option Connection :=
  match c.calls[n]? with
  | some (.start (.checked alive)) =>
    let c := if alive then c else
      { c.note (Log.warn (serverName ++ " exited right after the handshake")) with
        running := false }
    let c := c.note (Log.info (serverName ++ " is running"))
    some { c.put n (.start (.done (.ok ()))) with phase := .running, holder := none }
  | _ => none

end ServerLink.Connection
