import ServerLink.Process.Service
import ServerLink.Rehearsal.Site

/-!
# A supervised process on the bench

One supervisor, the children it starts and the pipes to them.  Children and workers move only while
somebody waits; time passes only when nothing else can happen.

* `Bench` — the state.
* `Bench.tick?` — one move of a child or a worker.
* `Bench.waitUntil` — lets everything move until a condition holds or a time is over.
* `Bench.start`, `stop`, `kill`, `takePipe`, `drop` — what the program does with the process.
* `Bench.send`, `receive`, `close` — what it does with the pipe that it took.
-/

namespace ServerLink.Rehearsal

open Process

/-- A supervised process and all around it. -/
structure Bench extends Service where
  machine : Machine
  arguments : List Bytes
  directory : Option Path
  players : List Player
  /-- The child whose pipe was taken. -/
  taken : Option Nat
  /-- Whether the supervisor is gone. -/
  dropped : Bool

namespace Bench

/-- A bench on which nothing has been started. -/
def new (machine : Machine) (command : Path) (arguments : List Bytes) (directory : Option Path) :
    Bench :=
  ⟨.new command, machine, arguments, directory, [], none, false⟩

/-- Puts a changed player in its place. -/
def seat (b : Bench) (p : Player) : Bench :=
  { b with players := b.players.map fun q => if q.pid = p.pid then p else q }

/-- Takes a step if it can happen. -/
def take (b : Bench) (st : Service.Step) : Bench := { b with toService := b.toService.step st }

/-- Takes a step, when it can happen. -/
def take? (b : Bench) (st : Service.Step) : Option Bench :=
  (b.toService.step? st).map fun s => { b with toService := s }

/-! ## What moves by itself -/

/-- The listener to a child makes its next move. -/
def listen? (b : Bench) (pid : Nat) : Option Bench :=
  ((b.voice? pid).bind Voice.listenerMove?).bind fun m => b.take? (.voice pid m)

/-- The streams of a child that has ended come to their end. -/
def fade? (b : Bench) (p : Player) : Option Bench :=
  match b.take? (.voice p.pid .endSpeech) with
  | some b => some b
  | none => (p.pipe.move? .endOutput).map fun pipe => b.seat { p with pipe }

/-- The next act of a player.  A complaint that nobody can hear ends the program. -/
def perform? (b : Bench) (p : Player) : Option Bench :=
  match p.leaving?, p.acts with
  | some code, _ => some (b.take (.exit p.pid code))
  | none, .complain bytes :: rest =>
    let acts := if b.hears p.pid then rest else [.leave none]
    some ((b.take (.voice p.pid (.say bytes))).seat { p with acts })
  | none, _ => p.act?.map b.seat

/-- What a player, its pipe or a worker beside it does next. -/
def playerTick? (b : Bench) (c : Child) (p : Player) : Option Bench :=
  match p.pipe.workerMove? c.ending.isNone with
  | some m => some (b.seat { p with pipe := p.pipe.move m })
  | none =>
    match b.listen? c.pid with
    | some b => some b
    | none => if c.ending.isSome then b.fade? p else b.perform? p

/-- The next move of what knows a child: its player, or the news of its end. -/
def childTick? (b : Bench) (c : Child) : Option Bench :=
  match (b.players.find? (·.pid = c.pid)).bind (b.playerTick? c) with
  | some b => some b
  | none => b.take? (.record c.pid) <|> b.take? (.tell c.pid)

/-- One move of a child or a worker. -/
def tick? (b : Bench) : Option Bench := b.supervisor.children.findSome? b.childTick?

/-- How long nothing moves, when children only let time pass. -/
def idleTime? (b : Bench) : Option Nat :=
  (b.players.filterMap fun p => if b.supervisor.isAlive p.pid then p.pausing? else none).min?

/-- Lets everything move until a condition holds or a time is over. -/
def waitFor (fuel : Nat) (done : Bench → Bool) (time : Nat) (b : Bench) : Bench :=
  match fuel with
  | 0 => b
  | fuel + 1 =>
    if done b then b
    else
      match b.tick? with
      | some b => waitFor fuel done time b
      | none =>
        match b.idleTime? with
        | none => b
        | some t =>
          if time < t then { b with players := b.players.map (·.passed time) }
          else waitFor fuel done (time - t) { b with players := b.players.map (·.passed t) }

/-- The most moves that are made while somebody waits. -/
def patience : Nat := 10000000

/-- Lets everything move until a condition holds or a time is over. -/
def waitUntil (b : Bench) (done : Bench → Bool) (time : Nat) : Bench :=
  waitFor patience done time b

/-- How long a wait lasts that nothing ends, in milliseconds. -/
def longWait : Nat := 10000

/-! ## The process -/

/-- Changes the pipe to a child. -/
def withPipe (b : Bench) (pid : Nat) (f : Pipe → Pipe) : Bench :=
  { b with
    players := b.players.map fun p => if p.pid = pid then { p with pipe := f p.pipe } else p }

/-- Closes the pipe that nobody took. -/
def closeUntaken (b : Bench) : Bench :=
  match b.supervisor.pipe with
  | some pid => b.withPipe pid Pipe.close
  | none => b

/-- The directory in which the process runs. -/
def home (b : Bench) : Path :=
  match b.machine.enter b.directory with
  | .ok place => ⟨Path.slash :: Path.glue place⟩
  | .error _ => b.machine.home

/-- Starts the process. -/
def start (b : Bench) : Bench × Option ProcessError :=
  let pid := b.players.length + 1
  let found := b.machine.launch b.command b.arguments b.directory
  let before := if b.supervisor.isRunning then b else b.closeUntaken
  match b.toService.start (found.map fun _ => pid), found with
  | (s, none), .ok place =>
    let acts := Site.programAt b.machine place b.arguments b.home
    ({ before with toService := s, players := before.players ++ [.start pid acts] }, none)
  | (_, e), _ => (b, e)

/-- The signal that a stop sends in a stage. -/
def signal (b : Bench) : Bench :=
  match b.stage with
  | .terminated pid | .killed pid => b.take (.exit pid none)
  | _ => b

/-- Waits in the stage of a stop, and goes on with the next when the wait was in vain. -/
def goOn (fuel : Nat) (b : Bench) : Bench :=
  match fuel with
  | 0 => b
  | fuel + 1 =>
    let b := b.signal.waitUntil (·.supervisor.sawEnd) Supervisor.graceTime
    match b.take? .see <|> b.take? .giveUp with
    | some b => b
    | none => goOn fuel (b.take .escalate)

/-- Stops the process. -/
def stop (b : Bench) (mode : Supervisor.StopMode) : Bench × Option ProcessError :=
  match b.toService.beginStop mode with
  | (_, some e) => (b, some e)
  | (s, none) => (goOn 3 { b.closeUntaken with toService := s }, none)

/-- Kills the process without waiting. -/
def kill (b : Bench) : Bench := b.take .kill

/-- Takes the pipe to the process; a pipe taken before is closed. -/
def takePipe (b : Bench) : Bench × Option ProcessError :=
  match b.toService.takePipe with
  | (_, .error e) => (b, some e)
  | (s, .ok pid) =>
    let b := match b.taken with
      | some old => b.withPipe old Pipe.close
      | none => b
    ({ b with toService := s, taken := some pid }, none)

/-- Gives the supervisor up: a running process is killed, a pipe that nobody took is closed. -/
def drop (b : Bench) : Bench := { b.closeUntaken.kill with dropped := true }

/-! ## The pipe that was taken -/

/-- The pipe that was taken. -/
def pipe? (b : Bench) : Option Pipe :=
  (b.taken.bind fun pid => b.players.find? (·.pid = pid)).map (·.pipe)

/-- Sends data. -/
def send (b : Bench) (p : Pipe) (data : Bytes) : Bench × Option PipeError :=
  let (p, e) := p.send data
  (match b.taken with
    | some pid => b.withPipe pid fun _ => p
    | none => b, e)

/-- Closes the pipe. -/
def close (b : Bench) : Bench :=
  match b.taken with
  | some pid => b.withPipe pid Pipe.close
  | none => b

/-- Whether something can be received, or it is clear that nothing will be. -/
def hasNews (b : Bench) : Bool :=
  match b.pipe? with
  | some p =>
    match p.receive with
    | (_, .waiting) => false
    | _ => true
  | none => true

/-- Receives chunks until a number of bytes has arrived, or to the end of the stream. -/
def receive (fuel : Nat) (count : Option Nat) (got : List Bytes) (b : Bench) :
    Bench × List Bytes × Option PipeError :=
  match fuel with
  | 0 => (b, got, none)
  | fuel + 1 =>
    if count.any (· ≤ (got.map List.length).sum) then (b, got, none)
    else
      let b := b.waitUntil hasNews longWait
      match b.pipe?.map Pipe.receive, b.taken with
      | some (p, .chunk data), some pid =>
        receive fuel count (got ++ [data]) (b.withPipe pid fun _ => p)
      | some (_, .failed e), _ => (b, got, some e)
      | _, _ => (b, got, none)

end Bench

end ServerLink.Rehearsal
