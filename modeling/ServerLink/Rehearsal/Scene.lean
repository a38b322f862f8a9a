import ServerLink.Connection.Move
import ServerLink.Rehearsal.Server
import ServerLink.Rehearsal.Watching
import ServerLink.Rpc.World

/-!
# A connection on the scene

A connection with the server that it launches, the files that it watches and a clock.  Calls move on
first, then the loop of the session, then the news of the server's end; what happened to files is
noticed when nothing else happens, and time passes only then.

* `Scene` — the state.
* `Scene.tick?` — one move.
* `Scene.waitUntil` — lets everything move until a condition holds or a time is over.
* `Scene.call`, `Scene.begin` — a call to its end, or only its beginning.
-/

namespace ServerLink.Rehearsal

open Process Transport

/-- A connection and all around it. -/
structure Scene where
  machine : Machine
  /-- The server in a directory of its own, if there is one. -/
  server : Option Server
  connection : Connection
  stream : Scripted
  exitCode : Nat
  /-- Whether the server logs what it receives. -/
  logs : Bool
  /-- What the server has logged. -/
  received : List String
  now : Nat
  /-- The times at which calls no longer wait. -/
  deadlines : List (Nat × Nat)
  watching : Option Watching

namespace Scene

/-- The place of the server that has a directory of its own. -/
def serverPlace : List Bytes := Site.place ["tmp", Site.serverName, serverName]

/-- The machine with the server in its directory. -/
def withServer (m : Machine) : Machine :=
  { m with
    files := m.files.put serverPlace (.file [])
    runnable := serverPlace :: m.runnable }

/-- A scene on which nothing has happened. -/
def new (machine : Machine) (server : Option Server) (config : Config) : Scene :=
  { machine := if server.isSome then withServer machine else machine
    server, connection := .new config machine.home 1
    stream := ⟨[], false, [], false, false, false⟩, exitCode := 0, logs := false, received := []
    now := 0, deadlines := [], watching := none }

/-! ## Moves -/

/-- The launch of the server: its place, or why it fails. -/
def launched (s : Scene) : Except SystemError (List Bytes) :=
  s.machine.launch s.connection.config.command [] s.connection.config.workingDirectory

/-- What the server logs of its launch: where it runs, when that is a directory of the rehearsal. -/
def launchText (s : Scene) : String :=
  let place := match s.connection.config.workingDirectory with
    | some d => d.display
    | none =>
      if [Site.root.bytes].any (·.isPrefixOf s.machine.home.bytes) then s.machine.home.display
      else "inherited"
  "launched with 0 arguments in " ++ place

/-- The connection hears the lines of standard error; blank ones are passed over. -/
def hearAll (c : Connection) (lines : List String) : Connection :=
  lines.foldl (fun c line =>
    let text := Text.trimRight line.toList
    if text.isEmpty then c else c.move (.readStderr (String.ofList text))) c

/-- The scene once the server at a place was launched. -/
def raise (s : Scene) (place : List Bytes) : Scene :=
  let server := match s.server with
    | some server => if place = serverPlace then server else .ofProgram (place.getLast?.getD [])
    | none => .ofProgram (place.getLast?.getD [])
  { s with
    connection := hearAll s.connection server.complaints
    stream := server.stream, exitCode := server.exitCode, logs := server.logs
    received := s.received ++ if server.logsLaunch then [s.launchText] else [] }

/-- Whether a call no longer waits. -/
def isLate (s : Scene) (n : Nat) : Bool := (s.deadlines.lookup n).any (· ≤ s.now)

/-- How long a stage waits, in milliseconds. -/
def patienceOf (config : Config) : Connection.Call → Option Nat
  | .start (.initializing _) => some (config.startTimeout.nanoseconds / 1000000)
  | .stop (.shuttingDown _) => some (config.requestTimeout.nanoseconds / 1000000)
  | .stop (.flushing _) => some 1000
  | .stop .ending => some Supervisor.graceTime
  | _ => none

/-- Notes until when a call waits. -/
def await (s : Scene) (n : Nat) : Scene :=
  let others := s.deadlines.filter (·.1 != n)
  match (s.connection.calls[n]?).bind (patienceOf s.connection.config) with
  | some t => { s with deadlines := others ++ [(n, s.now + t)] }
  | none => { s with deadlines := others }

/-- Makes a move of a call. -/
def act? (s : Scene) (n : Nat) (m : Connection.Move) : Option Scene :=
  (s.connection.move? m).map fun c => await { s with connection := c } n

/-- The next move of a start. -/
def startTick? (s : Scene) (n : Nat) : Connection.StartStage → Option Scene
  | .waiting => s.act? n (.lockForStart n)
  | .entered =>
    match s.launched with
    | .error e => s.act? n (.launch n (.error e))
    | .ok _ => s.act? n (.launch n (.ok 1))
  | .spawned _ | .answering _ => s.act? n (.installHandlers n)
  | .equipped _ =>
    (s.act? n (.sendInitialize n)).map fun after =>
      match s.launched with
      | .ok place => after.raise place
      | .error _ => after
  | .initializing _ =>
    if s.connection.cancelled then s.act? n (.abortStart n)
    else
      let root := s.connection.config.workspaceRoot
      match Watching.begin s.machine.files s.machine.home root s.connection.config.watch with
      | .ok w =>
        ((s.act? n (.finishInitialize n (.ok w.watcher.root))).map
          fun after => { after with watching := some w })
          <|> if s.isLate n then s.act? n (.expireInitialize n) else none
      | .error e =>
        s.act? n (.finishInitialize n (.error e))
          <|> if s.isLate n then s.act? n (.expireInitialize n) else none
  | .discarding _ =>
    if s.connection.cancelled then s.act? n (.abortStart n)
    else if s.connection.process.sawEnd then s.act? n (.finishDiscard n)
    else none
  | .launched => s.act? n (.markRunning n)
  | .marked => s.act? n (.checkAlive n)
  | .checked _ => s.act? n (.finishStart n)
  | .done _ => none

/-- The next move of a stop. -/
def stopTick? (s : Scene) (n : Nat) : Connection.StopStage → Option Scene
  | .called => s.act? n (.cancelStart n)
  | .waiting => s.act? n (.lockForStop n)
  | .taken => s.act? n (.stopWatching n)
  | .unwatched => s.act? n (.sendShutdown n)
  | .shuttingDown _ =>
    s.act? n (.finishShutdown n) <|> if s.isLate n then s.act? n (.expireShutdown n) else none
  | .shutDown => s.act? n (.flush n)
  | .flushing _ => s.act? n (.close n (s.isLate n))
  | .closed => s.act? n (.checkProcess n)
  | .leaving => s.act? n (.stopProcess n)
  | .ending =>
    s.act? n (.awaitExit n false) <|>
      if s.isLate n then s.act? n (.exit 1 none) else none
  | .done _ => none

/-- The next move of a call. -/
def callTick? (s : Scene) (n : Nat) : Option Scene :=
  match s.connection.calls[n]? with
  | some (.start stage) => s.startTick? n stage
  | some (.stop stage) => s.stopTick? n stage
  | some (.document (.asked _)) => s.act? n (.filterDocument n)
  | some (.document (.known _)) => s.act? n (.checkRunning n)
  | some (.document (.passed _)) => s.act? n (.sendDocument n)
  | _ => none

/-- What the server logs when the loop makes a move. -/
def heard (s : Scene) (m : Rpc.Move) : List String :=
  if !s.logs || !s.stream.holdsOpen || !s.connection.process.isAlive 1 then []
  else
    match m, s.connection.session.outbox with
    | .write none, .message text :: _ => [text]
    | .close, _ => ["EOF"]
    | _, _ => []

/-- The next move of the session's loop. -/
def loopTick? (s : Scene) : Option Scene :=
  match Rpc.World.loopMove? s.connection.session s.stream with
  | none => none
  | some (m, t) =>
    (s.connection.move? (.loop m)).map fun c =>
      { s with
        connection := c
        received := s.received ++ s.heard m
        stream := if t.closed then { t with holdsOpen := false } else t }

/-- The next piece of news about the server. -/
def newsTick? (s : Scene) : Option Scene :=
  let gone : Option Connection :=
    if s.stream.holdsOpen then none else s.connection.move? (.exit 1 (some s.exitCode))
  (gone <|> s.connection.move? (.record 1) <|> s.connection.move? (.report 1)).map fun c =>
    { s with connection := c, stream := { s.stream with holdsOpen := false } }

/-- The next move of the worker that forwards watched files. -/
def filesTick? (s : Scene) : Option Scene :=
  match s.connection.move? .forward with
  | some c => some { s with connection := c }
  | none =>
    match s.watching with
    | none => none
    | some w =>
      if w.touched.isEmpty then none
      else
        let (changes, w) := w.batch s.machine.files
        (s.connection.move? (.receiveBatch changes)).map fun c =>
          { s with connection := c, watching := some w }

/-- One move. -/
def tick? (s : Scene) : Option Scene :=
  (List.range s.connection.calls.length).findSome? s.callTick?
    <|> s.loopTick? <|> s.newsTick? <|> s.filesTick?

/-- Lets everything move until a condition holds or a time has come. -/
def waitFor (fuel : Nat) (done : Scene → Bool) (limit : Nat) (s : Scene) : Scene :=
  match fuel with
  | 0 => s
  | fuel + 1 =>
    if done s then s
    else
      match s.tick? with
      | some s => waitFor fuel done limit s
      | none =>
        match ((s.deadlines.map (·.2)).filter (s.now < ·)).min? with
        | some t =>
          if t ≤ limit then waitFor fuel done limit { s with now := t } else { s with now := limit }
        | none => { s with now := limit }

/-- The most moves that are made while somebody waits. -/
def patience : Nat := 1000000

/-- Lets everything move until a condition holds or a time is over. -/
def waitUntil (s : Scene) (done : Scene → Bool) (time : Nat) : Scene :=
  waitFor patience done (s.now + time) s

/-- How long a wait lasts that nothing ends, in milliseconds. -/
def longWait : Nat := 1000000

/-- What a call came to. -/
def result? (s : Scene) (n : Nat) : Option (Except ConnectionError (Option Bool)) :=
  s.connection.result? n

/-- Begins a call. -/
def begin (s : Scene) (m : Connection.Move) : Scene × Nat :=
  ({ s with connection := s.connection.move m }, s.connection.calls.length)

/-- Waits for a call. -/
def finish (s : Scene) (n : Nat) : Scene := s.waitUntil (fun s => (s.result? n).isSome) longWait

/-- Calls and waits. -/
def call (s : Scene) (m : Connection.Move) : Scene × Nat :=
  let (s, n) := s.begin m
  (s.finish n, n)

/-- Changes files. -/
def change (s : Scene) (actions : List Files.Action) : Scene :=
  actions.foldl (fun s a =>
    { s with
      machine := { s.machine with files := s.machine.files.apply a }
      watching := s.watching.map fun w => w.touch s.machine.files a }) s

end Scene

end ServerLink.Rehearsal
