import ServerLink.Connection.Document
import ServerLink.Connection.Start
import ServerLink.Connection.Stop

/-!
# Runs of a connection

* `Connection.Move` — what can happen: a caller calls, a call makes its next move, a worker beside
  the connection makes one, or something happens outside.
* `Connection.move?` — a move, when it can happen; every interleaving is a run of moves.
* `Connection.Reachable` — the connections that come of such runs.
-/

namespace ServerLink.Connection

open Process

/-- What can happen to a connection. -/
inductive Move where
  /-- A caller calls start, stop, or says something about a document. -/
  | callStart
  | callStop
  | callDocument (r : Report)
  /-- A start moves on. -/
  | lockForStart (n : Nat)
  | launch (n : Nat) (outcome : Except SystemError Nat)
  | installHandlers (n : Nat)
  | sendInitialize (n : Nat)
  | abortStart (n : Nat)
  | finishInitialize (n : Nat) (watch : Except WatchError Path)
  | expireInitialize (n : Nat)
  | finishDiscard (n : Nat)
  | markRunning (n : Nat)
  | checkAlive (n : Nat)
  | finishStart (n : Nat)
  /-- A stop moves on. -/
  | cancelStart (n : Nat)
  | lockForStop (n : Nat)
  | stopWatching (n : Nat)
  | sendShutdown (n : Nat)
  | finishShutdown (n : Nat)
  | expireShutdown (n : Nat)
  | flush (n : Nat)
  | close (n : Nat) (late : Bool)
  | checkProcess (n : Nat)
  | stopProcess (n : Nat)
  | awaitExit (n : Nat) (late : Bool)
  /-- A call about a document moves on. -/
  | filterDocument (n : Nat)
  | checkRunning (n : Nat)
  | sendDocument (n : Nat)
  /-- The forwarding worker moves on. -/
  | receiveBatch (changes : List Watch.Change)
  | forward
  /-- The loop of the session moves on. -/
  | loop (m : Rpc.Move)
  /-- The server writes a line to its standard error. -/
  | readStderr (line : String)
  /-- The server ends, or the news of its end comes. -/
  | exit (pid : Nat) (code : Option Nat)
  | record (pid : Nat)
  | report (pid : Nat)

/-- Whether a move of a session is one of its loop. -/
def isLoopMove : Rpc.Move → Bool
  | .observeStop | .write _ | .acknowledge | .absorb _ | .deliver | .dispatch | .loseStream | .wake
  | .close | .drop => true
  | _ => false

/-- An end as it is logged. -/
def endText (e : Exit) : String :=
  let code := match e.code with
    | some n => "Some(" ++ Decimal.ofNat n ++ ")"
    | none => "None"
  serverName ++ " (pid Some(" ++ Decimal.ofNat e.pid ++ ")) exited unexpectedly with code " ++ code

/-- The end of the server is told: what was taken to be running no longer is. -/
def reportEnd (c : Connection) (pid : Nat) : Option Connection :=
  (c.process.move? (.tell pid)).map fun p =>
    let after := { c with process := p, running := false }
    match c.running, p.exits.getLast? with
    | true, some e => after.note (Log.error (endText e))
    | _, _ => after

/-- A move, when it can happen. -/
def move? (c : Connection) : Move → Option Connection
  | .callStart => some { c with calls := c.calls ++ [.start .waiting] }
  | .callStop => some { c with calls := c.calls ++ [.stop .called] }
  | .callDocument r => some { c with calls := c.calls ++ [.document (.asked r)] }
  | .lockForStart n => c.lockForStart n
  | .launch n outcome => c.launch n outcome
  | .installHandlers n => c.installHandlers n
  | .sendInitialize n => c.sendInitialize n
  | .abortStart n => c.abortStart n
  | .finishInitialize n watch => c.finishInitialize n watch
  | .expireInitialize n => c.expireInitialize n
  | .finishDiscard n => c.finishDiscard n
  | .markRunning n => c.markRunning n
  | .checkAlive n => c.checkAlive n
  | .finishStart n => c.finishStart n
  | .cancelStart n => c.cancelStart n
  | .lockForStop n => c.lockForStop n
  | .stopWatching n => c.stopWatching n
  | .sendShutdown n => c.sendShutdown n
  | .finishShutdown n => c.finishShutdown n
  | .expireShutdown n => c.expireShutdown n
  | .flush n => c.flush n
  | .close n late => c.close n late
  | .checkProcess n => c.checkProcess n
  | .stopProcess n => c.stopProcess n
  | .awaitExit n late => c.awaitExit n late
  | .filterDocument n => c.filterDocument n
  | .checkRunning n => c.checkRunning n
  | .sendDocument n => c.sendDocument n
  | .receiveBatch changes => c.receiveBatch changes
  | .forward => c.forward
  | .loop m =>
    -- there is no loop before there is a server
    if isLoopMove m && !c.process.children.isEmpty then
      (c.session.move? m).map fun s =>
        { c with session := s, shown := c.shown ++ s.shown.drop c.session.shown.length }
    else none
  | .readStderr line =>
    if c.process.children.isEmpty then none else some (c.noteAt Log.serverTarget (Log.debug line))
  | .exit pid code => (c.process.move? (.exit pid code)).map fun p => { c with process := p }
  | .record pid => (c.process.move? (.record pid)).map fun p => { c with process := p }
  | .report pid => c.reportEnd pid

/-- Makes a move if it can happen. -/
def move (c : Connection) (m : Move) : Connection := (c.move? m).getD c

/-- A run of moves, when each can happen in its turn. -/
def moves? (c : Connection) : List Move → Option Connection
  | [] => some c
  | m :: rest => (c.move? m).bind (moves? · rest)

/-- The connections that a connection can become. -/
inductive Reachable (c : Connection) : Connection → Prop where
  | refl : Reachable c c
  | step {d e : Connection} (m : Move) : Reachable c d → d.move? m = some e → Reachable c e

/-- What a call came to, once it is over. -/
def result? (c : Connection) (n : Nat) : Option (Except ConnectionError (Option Bool)) :=
  match c.calls[n]? with
  | some (.start (.done r)) | some (.stop (.done r)) => some (r.map fun _ => none)
  | some (.document (.done r)) => some (r.map some)
  | _ => none

end ServerLink.Connection
