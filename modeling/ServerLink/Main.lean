import ServerLink.Connection.Move
import ServerLink.Host
import ServerLink.Logging.Sink

/-!
# The program

Reads the command line and the process environment, activates the client and writes what is shown.
This shell launches no other program, so a start always ends with the refusal of the launch; the end
of the standard input takes the place of an interrupt.
-/

namespace ServerLink.Console

/-- The variables that the program asks for. -/
def variableNames : List String :=
  ["RUST_LOG", "CONFIT_LOG_FILE", "CONFIT_LOG_UNIQUE", "CONFIT_LOG_JSON"]
    ++ Environment.environmentVariables

/-- An error of the system as the program knows it. -/
def systemError : IO.Error → SystemError
  | .noFileOrDirectory _ number _ => .numbered number.toNat
  | .permissionDenied _ number _ => .numbered number.toNat
  | .inappropriateType _ number _ => .numbered number.toNat
  | .resourceExhausted _ number _ => .numbered number.toNat
  | e => .worded (toString e)

/-- Why no program is launched. -/
def launchRefusal : SystemError := .worded "programs cannot be launched from here"

/-- A connection whose launch was refused. -/
def refused (config : Config) (directory : Path) : Connection :=
  (((Connection.new config directory 0).move .callStart).move (.lockForStart 0)).move
    (.launch 0 (.error launchRefusal))

/-- The connection after a stop. -/
def stopped (c : Connection) : Connection :=
  ((c.move .callStop).move (.cancelStart 1)).move (.lockForStop 1)

/-- What is shown of the start of a connection. -/
def startShown (c : Connection) : List Log.Shown :=
  c.shown ++ ((c.result? 0).map fun r => Host.started (r.map fun _ => ())).getD []

/-- What is shown from an interrupt to the end. -/
def endShown (m : Lifecycle.Manager) (c : Connection) : List Log.Shown :=
  Host.interrupted m ++ (stopped c).shown.drop c.shown.length

/-- A line as it is written. -/
def lineText : Written → String
  | .text s => s
  | .record true r =>
    (Json.ofFields [("fields", Json.ofFields (("message", .str r.line.message) ::
        r.details.map fun d => (d.1, Json.str d.2))),
      ("level", .str r.line.level.name), ("target", .str r.target)]).write
  | .record false r => r.line.level.name ++ " " ++ r.target ++ ": " ++ r.text

/-- The lines of a run as they are written. -/
def linesText (l : List Written) : String := String.join (l.map fun w => lineText w ++ "\n")

/-! ## Input and output -/

/-- The variables that are set. -/
def readVariables : IO Variables := do
  let mut found : Variables := []
  for name in variableNames do
    if let some value ← IO.getEnv name then
      found := found ++ [(name, Utf8.ofString value)]
  return found

/-- The number of this process, or nothing where the system does not tell. -/
def processId : IO String := do
  try
    let text ← IO.FS.readFile "/proc/self/stat"
    return String.ofList (text.toList.takeWhile Char.isDigit)
  catch _ => return ""

/-- The sink of a configuration and the file behind it. -/
def openSink (c : LogConfig) : IO (Except SystemError (Sink × Option IO.FS.Handle)) := do
  let sink (place : Option (List Bytes)) : Sink := ⟨Filter.ofText c.level, place, c.json⟩
  match c.file with
  | none => return .ok (sink none, none)
  | some p =>
    try
      let handle ← IO.FS.Handle.mk p.display .append
      return .ok (sink (some []), some handle)
    catch e => return .error (systemError e)

/-- Writes what is shown. -/
def writeShown (sink : Sink) (file : Option IO.FS.Handle) (shown : List Log.Shown) : IO Unit := do
  let output := sink.showAll shown
  IO.eprint (linesText output.errors)
  if let some h := file then
    h.putStr (linesText output.file)
    h.flush

/-- Runs the program with options. -/
def run (o : CommandLine.Options) : IO UInt32 := do
  let vars ← readVariables
  match ← openSink (Host.logConfig o vars (← processId)) with
  | .error e =>
    IO.eprintln (Host.logFailureText e)
    return 1
  | .ok (sink, file) =>
    let directory := Path.ofString (← IO.currentDir).toString
    let a := Host.begin o vars directory
    writeShown sink file a.shown
    match a.result, a.manager.made.getLast? with
    | .error e, _ =>
      IO.eprintln (Host.failureText e)
      return 1
    | .ok _, none => return 1
    | .ok _, some config =>
      let c := refused config directory
      writeShown sink file (startShown c)
      let _ ← (← IO.getStdin).readToEnd
      writeShown sink file (endShown a.manager c)
      return 0

end ServerLink.Console

open ServerLink in
/-- The program. -/
def main (arguments : List String) : IO UInt32 :=
  match CommandLine.read (arguments.map Utf8.ofString) with
  | .tell text => do
    IO.print text
    return 0
  | .refuse f => do
    IO.eprint f.text
    return 2
  | .run o => Console.run o
