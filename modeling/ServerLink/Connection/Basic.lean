import ServerLink.Editor.Client
import ServerLink.Process.Supervisor
import ServerLink.Watch

/-!
# A connection

A connection launches the server, shakes hands with it, forwards what happens to documents and
files, and takes leave.  It is used once: after a stop it never starts again.

Callers share it.  Each **call** — of start, of stop, or about a document — runs on its own, and so
do the process's workers, the loop of the session and the worker that forwards watched files.  A
lock guards the phase, and another one the client; a call holds the first while it launches or tears
down, and the second while it says farewell.

* `Connection` — the state.
* `StartStage`, `StopStage`, `DocumentStage` — how far a call is.
* `Connection.failStart`, `refuseStart`, `finishStop` — how a start that fails and a stop end.
-/

namespace ServerLink

open Process

namespace Connection

/-- Where a connection is in its life. -/
inductive Phase where
  | idle
  | running
  | stopped
deriving DecidableEq, Repr

/-- How far a start is. -/
inductive StartStage where
  /-- It waits for the lock. -/
  | waiting
  /-- It holds the lock of an idle connection. -/
  | entered
  /-- The server was launched, for a workspace of this address, and the session has begun. -/
  | spawned (root : Url)
  /-- The server's requests are answered. -/
  | answering (root : Url)
  /-- The server's notifications are heard, too. -/
  | equipped (root : Url)
  /-- The handshake was opened under an id. -/
  | initializing (id : Nat)
  /-- It failed, and the server is being ended. -/
  | discarding (e : ConnectionError)
  /-- The handshake is closed and the files are watched. -/
  | launched
  /-- The connection is marked as running. -/
  | marked
  /-- It has looked whether the server is alive. -/
  | checked (alive : Bool)
  | done (result : Except ConnectionError Unit)

/-- How far a stop is. -/
inductive StopStage where
  /-- It has not yet asked a start to give up. -/
  | called
  /-- It waits for the lock. -/
  | waiting
  /-- It holds the lock, and the session is its own. -/
  | taken
  /-- Files are no longer watched. -/
  | unwatched
  /-- The farewell was opened under an id. -/
  | shuttingDown (id : Nat)
  /-- The farewell is over. -/
  | shutDown
  /-- The session was asked to write out what is queued, under a ticket if it still took one. -/
  | flushing (ticket : Option Nat)
  /-- The session is closed. -/
  | closed
  /-- The server was seen alive. -/
  | leaving
  /-- The server was asked to leave. -/
  | ending
  | done (result : Except ConnectionError Unit)

/-- What a caller says about a document. -/
inductive Report where
  | opened (url : Url) (language : String) (version : Int) (text : String)
  | changed (url : Url) (version : Int) (text : String)
  | saved (url : Url) (text : Option String)
  | closed (url : Url)

/-- The address of the document. -/
def Report.url : Report → Url
  | opened url _ _ _ | changed url _ _ | saved url _ | closed url => url

/-- How far a call about a document is. -/
inductive DocumentStage where
  | asked (r : Report)
  /-- The document is one of those that are forwarded. -/
  | known (r : Report)
  /-- The connection was running. -/
  | passed (r : Report)
  | done (result : Except ConnectionError Bool)

/-- A call and how far it is. -/
inductive Call where
  | start (s : StartStage)
  | stop (s : StopStage)
  | document (s : DocumentStage)

/-- How far the worker is that forwards watched files. -/
inductive Forwarder where
  | absent
  | listening
  | holding (events : List Json)
  | ended

end Connection

open Connection in
/-- A connection. -/
structure Connection where
  config : Config
  /-- The directory of the program itself, from which a relative workspace is seen. -/
  home : Path
  phase : Phase
  /-- The call that holds the lock of the phase. -/
  holder : Option Nat
  /-- The call that holds the lock of the client. -/
  speaker : Option Nat
  /-- Whether a stop has asked a start to give up. -/
  cancelled : Bool
  /-- Whether the server is taken to be running. -/
  running : Bool
  /-- The documents that are open. -/
  documents : List Url
  /-- What was shown, to the user or in the log. -/
  shown : List Log.Shown
  process : Supervisor
  /-- How many launches were attempted. -/
  launches : Nat
  client : Editor.Client
  session : Rpc.Session
  forwarder : Forwarder
  /-- The calls by their numbers. -/
  calls : List Call

namespace Connection

/-- A connection that nobody has used. -/
def new (config : Config) (home : Path) (processId : Nat) : Connection :=
  { config, home, phase := .idle, holder := none, speaker := none, cancelled := false
    running := false, documents := [], shown := [], process := .new, launches := 0
    client := .new config.clientName (some config.clientVersion) processId
    session := .start, forwarder := .absent, calls := [] }

/-- Puts a call into another stage. -/
def put (c : Connection) (n : Nat) (call : Call) : Connection :=
  { c with calls := c.calls.set n call }

/-- Adds a line of some place to the log. -/
def noteAt (c : Connection) (target : String) (line : Log.Line) : Connection :=
  { c with shown := c.shown ++ [.line target line] }

/-- Adds a line to the log. -/
def note (c : Connection) (line : Log.Line) : Connection := c.noteAt Log.connectionTarget line

/-- Shows the user a notice. -/
def notify (c : Connection) (text : String) : Connection :=
  { c with shown := c.shown ++ [.notice text] }

/-- What the user was shown. -/
def notices (c : Connection) : List String := Log.notices c.shown

/-- Whether a document is open. -/
def isOpen (c : Connection) (url : Url) : Bool := c.documents.contains url

/-- What the user is shown when a start fails. -/
def notice (e : ConnectionError) : String :=
  "Couldn't start client " ++ serverName ++ ": " ++ e.failure.message

/-- Ends a start that failed: the connection is stopped, and the user is shown the reason unless the
start was given up. -/
def failStart (c : Connection) (n : Nat) (e : ConnectionError) : Connection :=
  let c := { c with phase := .stopped, holder := none }
  let c := match e with
    | .cancelled => c.note (Log.debug ("Start of " ++ serverName ++ " cancelled by stop"))
    | e =>
      (c.note (Log.error ("Failed to start " ++ serverName ++ ": " ++ e.failure.message))).notify
        (notice e)
  c.put n (.start (.done (.error e)))

/-- Ends a start that did not come to a launch. -/
def refuseStart (c : Connection) (n : Nat) (e : ConnectionError) : Connection :=
  c.put n (.start (.done (.error e)))

/-- Ends a stop. -/
def finishStop (c : Connection) (n : Nat) (result : Except ConnectionError Unit) : Connection :=
  { c.put n (.stop (.done result)) with holder := none }

/-- Gives up the session of a client that is dropped. -/
def dropClient (c : Connection) : Connection := { c with session := c.session.move .stop }

/-- Kills the server that is known to be running. -/
def killServer (c : Connection) : Connection := { c with process := c.process.kill }

end Connection

end ServerLink
