import ServerLink.Connection.Basic

/-!
# Stopping a connection

The moves of a call of stop, one function each, in their order:

* `cancelStart` tells a start to give up.
* `lockForStop` takes the lock and makes the connection one that is stopped.  What was running is
  then taken apart.
* `stopWatching` ends the watching of files.
* `sendShutdown` opens the farewell; `finishShutdown` closes it, or `expireShutdown` when its time
  is up.
* `flush` and `close` close the session.
* `checkProcess` looks whether the server is alive; `stopProcess` asks one that is to leave, and
  `awaitExit` waits for that.
-/

namespace ServerLink.Connection

open Process

/-- Asks a start to give up. -/
def cancelStart (c : Connection) (n : Nat) : Option Connection :=
  match c.calls[n]? with
  | some (.stop .called) => some { c.put n (.stop .waiting) with cancelled := true }
  | _ => none

/-- Takes the lock: from now on the connection is stopped and no document is open. -/
def lockForStop (c : Connection) (n : Nat) : Option Connection :=
  match c.calls[n]?, c.holder with
  | some (.stop .waiting), none =>
    let after := { c with phase := .stopped, running := false, documents := [] }
    match c.phase with
    | .running =>
      let line := Log.info ("Stopping " ++ serverName)
      some { (after.put n (.stop .taken)).note line with holder := some n }
    | .idle | .stopped =>
      let line := Log.debug ("Stop requested with no running " ++ serverName)
      some ((after.note line).finishStop n (.ok ()))
  | _, _ => none

/-- Ends the watching, once no batch is under way. -/
def stopWatching (c : Connection) (n : Nat) : Option Connection :=
  match c.calls[n]?, c.forwarder with
  | some (.stop .taken), .holding _ => none
  | some (.stop .taken), _ => some { c.put n (.stop .unwatched) with forwarder := .ended }
  | _, _ => none

/-- What is logged when the server does not take leave. -/
def shutdownWarning (e : EditorError) : Log.Line :=
  Log.warn ("Server did not acknowledge shutdown: " ++ e.failure.message)

/-- Opens the farewell, if the handshake was done. -/
def sendShutdown (c : Connection) (n : Nat) : Option Connection :=
  match c.calls[n]? with
  | some (.stop .unwatched) =>
    if c.speaker.isSome then none
    else
      let after := { c with speaker := some n, client := c.client.openFarewell }
      if !c.client.ready then some (after.put n (.stop .shutDown))
      else
        let after := after.noteAt Log.editorTarget (Log.info "Shutting down LSP client")
        match c.session.call Editor.Client.farewellMethod none with
        | (s, .ok id) => some { after.put n (.stop (.shuttingDown id)) with session := s }
        | (s, .error e) =>
          some { (after.note (shutdownWarning (.rpc e))).put n (.stop .shutDown) with session := s }
  | _ => none

/-- Closes the farewell with the server's answer. -/
def closeFarewell (c : Connection) (n : Nat) (answer : Except RpcError Json) : Connection :=
  match Editor.Client.closeFarewell c.session answer with
  | (s, none) => { c.put n (.stop .shutDown) with session := s }
  | (s, some e) => { (c.note (shutdownWarning e)).put n (.stop .shutDown) with session := s }

/-- Goes on once the call of the farewell was woken. -/
def finishShutdown (c : Connection) (n : Nat) : Option Connection :=
  match c.calls[n]? with
  | some (.stop (.shuttingDown id)) =>
    (c.session.wake? id).map fun wake => c.closeFarewell n (Rpc.Session.outcome .any wake)
  | _ => none

/-- Goes on when the server did not answer the farewell in time. -/
def expireShutdown (c : Connection) (n : Nat) : Option Connection :=
  match c.calls[n]? with
  | some (.stop (.shuttingDown id)) =>
    if (c.session.wake? id).isSome then none
    else
      some ({ c with session := c.session.move (.withdraw id) }.closeFarewell n (.error .timeout))
  | _ => none

/-- Asks the session to write out what is queued. -/
def flush (c : Connection) (n : Nat) : Option Connection :=
  match c.calls[n]? with
  | some (.stop .shutDown) =>
    match c.session.move? .mark with
    | some s => some { c.put n (.stop (.flushing (some c.session.nextTicket))) with session := s }
    | none => some (c.put n (.stop (.flushing none)))
  | _ => none

/-- Whether all that was queued before a mark has been written, or never will be. -/
def isFlushed (c : Connection) (ticket : Option Nat) : Bool :=
  ticket.all c.session.acknowledged.contains || !c.session.isOpen

/-- Closes the session, once it is flushed or is no longer waited for. -/
def close (c : Connection) (n : Nat) (late : Bool) : Option Connection :=
  match c.calls[n]? with
  | some (.stop (.flushing ticket)) =>
    if late || c.isFlushed ticket then
      some { c.put n (.stop .closed) with
        speaker := none
        session := (c.session.move .cancelAll).move .stop }
    else none
  | _ => none

/-- Ends a stop that took a running connection apart. -/
def endStop (c : Connection) (n : Nat) : Connection :=
  (c.note (Log.info (serverName ++ " stopped"))).finishStop n (.ok ())

/-- Looks whether the server is alive. -/
def checkProcess (c : Connection) (n : Nat) : Option Connection :=
  match c.calls[n]? with
  | some (.stop .closed) =>
    some (if c.process.isRunning then c.put n (.stop .leaving) else c.endStop n)
  | _ => none

/-- Asks the server to leave. -/
def stopProcess (c : Connection) (n : Nat) : Option Connection :=
  match c.calls[n]? with
  | some (.stop .leaving) =>
    match c.process.beginStop .graceful with
    | .error e => some (c.finishStop n (.error (.process e)))
    | .ok (p, _) => some { c.put n (.stop .ending) with process := p }
  | _ => none

/-- Ends a stop, once the server is gone or is no longer waited for. -/
def awaitExit (c : Connection) (n : Nat) (late : Bool) : Option Connection :=
  match c.calls[n]? with
  | some (.stop .ending) =>
    if late || c.process.sawEnd then
      some ({ c with process := c.process.finishStop }.endStop n)
    else none
  | _ => none

end ServerLink.Connection
