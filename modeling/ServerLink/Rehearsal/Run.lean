import ServerLink.Host
import ServerLink.Logging.Sink
import ServerLink.Rehearsal.Scene

/-!
# A run of the program

The program is run in the directory of a rehearsal and interrupted once some text has appeared.

* `Call` — how it is run.
* `Run` — what comes of it.
* `Run.of` — the run.
* `Stage` — the program between its activation and its end.
-/

namespace ServerLink.Rehearsal

/-- How the program is run. -/
structure Call where
  arguments : List Bytes
  vars : Variables
  machine : Machine
  /-- The server in a directory of its own, if there is one. -/
  server : Option Server
  /-- The text that has to appear before the program is interrupted. -/
  awaited : String

/-- What comes of a run. -/
structure Run where
  code : Nat
  output : String
  errors : List Written
  /-- What the usual log file holds, if it is there. -/
  file : Option (List Written)
  received : List String

/-- Whether a text holds another. -/
def holds (text part : String) : Bool := 1 < (text.splitOn part).length

namespace Written

/-- The text of what is written. -/
def text : Written → String
  | .record _ r => r.text
  | .text s => s

/-- What is written, line by line. -/
def lines (w : Written) : List Written :=
  let texts := (Text.lines (text w).toList).map String.ofList
  match w, texts with
  | .record false r, first :: second :: rest =>
    .record false (.of r.target ⟨r.line.level, first⟩) :: (second :: rest).map .text
  | .record json r, _ => [.record json r]
  | .text _, texts => texts.map .text

end Written

/-! ## The program at work -/

/-- The program between its activation and its end. -/
structure Stage where
  scene : Scene
  /-- The number of the start among the calls of the connection. -/
  start : Nat
  /-- Everything shown so far. -/
  shown : List Log.Shown
  /-- Whether the end of the start was shown. -/
  told : Bool

namespace Stage

/-- What a call came to. -/
def result? (s : Scene) (n : Nat) : Option (Except ConnectionError Unit) :=
  (s.result? n).map fun r => r.map fun _ => ()

/-- Goes on with a later scene: what it has shown is shown, and the end of the start after it. -/
def follow (st : Stage) (later : Scene) : Stage :=
  let shown := st.shown ++ later.connection.shown.drop st.scene.connection.shown.length
  match st.told, result? later st.start with
  | false, some r => { st with scene := later, shown := shown ++ Host.started r, told := true }
  | _, _ => { st with scene := later, shown }

/-- Lets everything move until a condition holds or a time is over, with a halt at the end of the
start. -/
def wait (st : Stage) (done : Stage → Bool) (time : Nat) : Stage :=
  let halt (s : Scene) := done (st.follow s) || (!st.told && (result? s st.start).isSome)
  let st := st.follow (st.scene.waitUntil halt time)
  st.follow (st.scene.waitUntil (fun s => done (st.follow s)) time)

/-- Whether a text has appeared, in what was written or in what the server has received. -/
def hasAppeared (sink : Sink) (awaited : String) (st : Stage) : Bool :=
  let output := sink.showAll st.shown
  (output.errors ++ output.file).any (fun w => holds (Written.text w) awaited)
    || st.scene.received.any (holds · awaited)

/-- Interrupts the program and waits for its end. -/
def interrupt (st : Stage) (m : Lifecycle.Manager) : Stage :=
  let (scene, n) := st.scene.begin .callStop
  let st := { st with scene, shown := st.shown ++ Host.interrupted m }
  let st := st.wait (fun st => (result? st.scene n).isSome) Scene.longWait
  { st with shown := st.shown ++ ((result? st.scene n).map Host.ended).getD [] }

/-- The program from its activation to its end. -/
def play (c : Call) (sink : Sink) (a : Lifecycle.Activation) (config : Config) : Stage :=
  let (scene, n) := (Scene.new c.machine c.server config).begin .callStart
  let st : Stage := ⟨scene, n, a.shown, false⟩
  let st := st.wait (hasAppeared sink c.awaited) Scene.longWait
  let st := st.wait (fun _ => false) 0
  st.interrupt a.manager

end Stage

namespace Run

/-- The name of the usual log file. -/
def logName : String := "out.log"

/-- The place of the usual log file. -/
def logPlace : List Bytes := Site.place ["tmp", Site.rootName, logName]

/-- What the usual log file holds, if it is there. -/
def logLines (files : Files) : Option (List Written) :=
  (files.content? (Site.root.join (Path.ofString logName))).map fun content =>
    Written.lines (.text (Utf8.toStringLossy content))

/-- A run that ends before the log is set up. -/
def short (c : Call) (code : Nat) (output errors : String) : Run :=
  ⟨code, output, Written.lines (.text errors), logLines c.machine.files, []⟩

/-- A run that has shown something. -/
def ofShown (code : Nat) (files : Files) (sink : Sink) (shown : List Log.Shown)
    (last : List Written) (received : List String) : Run :=
  let output := sink.showAll shown
  let added := if sink.file = some logPlace then output.file.flatMap Written.lines else []
  ⟨code, "", (output.errors ++ last).flatMap Written.lines, (logLines files).map (· ++ added),
    received⟩

/-- The run of a program with options. -/
def ofOptions (c : Call) (o : CommandLine.Options) : Run :=
  let start := Site.place ["tmp", Site.rootName]
  match Sink.open? (Host.logConfig o c.vars "PID") c.machine.files start with
  | .error e => short c 1 "" (Host.logFailureText e)
  | .ok (sink, files) =>
    let a := Host.begin o c.vars c.machine.home
    match a.result, a.manager.made.getLast? with
    | .ok _, some config =>
      let st := Stage.play c sink a config
      ofShown 0 files sink st.shown [] (st.scene.received.filter (· != "EOF"))
    | .error e, _ => ofShown 1 files sink a.shown [.text (Host.failureText e)] []
    | _, none => ofShown 1 files sink a.shown [] []

/-- The run of a program. -/
def of (c : Call) : Run :=
  match CommandLine.read c.arguments with
  | .tell text => short c 0 text ""
  | .refuse f => short c 2 "" f.text
  | .run o => ofOptions c o

end Run

end ServerLink.Rehearsal
