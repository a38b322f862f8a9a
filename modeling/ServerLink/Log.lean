/-!
# Log lines

* `Log.Level` — how grave a line is.
* `Log.Line` — a level and a text.
* `Log.Line.text` — both, as one line.
* `Log.Record` — a line with the name of the place that it comes from.
* `Log.Shown` — what is shown on the way, to whoever reads the log or to the user.
-/

namespace ServerLink.Log

/-- How grave a line is, from the least to the most talkative. -/
inductive Level where
  | error
  | warn
  | info
  | debug
  | trace
deriving DecidableEq, Repr

/-- The name of a level. -/
def Level.name : Level → String
  | .error => "ERROR"
  | .warn => "WARN"
  | .info => "INFO"
  | .debug => "DEBUG"
  | .trace => "TRACE"

/-- How talkative a level is. -/
def Level.rank : Level → Nat
  | .error => 1
  | .warn => 2
  | .info => 3
  | .debug => 4
  | .trace => 5

/-- A line of the log. -/
structure Line where
  level : Level
  message : String
deriving DecidableEq, Repr

/-- A line as text. -/
def Line.text (l : Line) : String := l.level.name ++ " " ++ l.message

/-- A grave line. -/
def error (message : String) : Line := ⟨.error, message⟩

/-- A warning. -/
def warn (message : String) : Line := ⟨.warn, message⟩

/-- A line for those who look for a cause. -/
def debug (message : String) : Line := ⟨.debug, message⟩

/-- A line that tells of progress. -/
def info (message : String) : Line := ⟨.info, message⟩

/-- Whether a line is a warning or graver. -/
def Line.isGrave (l : Line) : Bool := l.level.rank ≤ 2

/-- A line, the name of the place that it comes from, its target, and what it lists beside its
text. -/
structure Record where
  target : String
  line : Line
  details : List (String × String)
deriving DecidableEq, Repr

/-- A line of a target. -/
def Record.of (target : String) (line : Line) : Record := ⟨target, line, []⟩

/-- The text of a record with what it lists. -/
def Record.text (r : Record) : String :=
  r.line.message ++ String.join (r.details.map fun d => " " ++ d.1 ++ "=" ++ d.2)

/-- What is shown: a record, or a notice to the user. -/
inductive Shown where
  | record (r : Record)
  | notice (text : String)
deriving DecidableEq, Repr

/-- A line of a target that is shown. -/
def Shown.line (target : String) (l : Line) : Shown := .record (.of target l)

/-- The record, if it is one. -/
def Shown.record? : Shown → Option Record
  | .record r => some r
  | .notice _ => none

/-- The notice, if it is one. -/
def Shown.notice? : Shown → Option String
  | .record _ => none
  | .notice text => some text

/-- The lines among what is shown. -/
def lines (l : List Shown) : List Line := l.filterMap fun s => s.record?.map (·.line)

/-- The notices among what is shown. -/
def notices (l : List Shown) : List String := l.filterMap Shown.notice?

theorem notices_append (l more : List Shown) : notices (l ++ more) = notices l ++ notices more :=
  List.filterMap_append

/-- A line is no notice. -/
theorem notices_line (target : String) (line : Line) : notices [.line target line] = [] := rfl

theorem notices_lines (target : String) (lines : List Line) :
    notices (lines.map (.line target)) = [] := by
  simp [notices, Shown.line, Shown.notice?, List.filterMap_map, Function.comp_def]

/-! ## Targets -/

/-- The name in front of all targets; it is that of the outermost place. -/
def hostTarget : String := "confit_client"

/-- The target of a place inside. -/
def targetOf (place : String) : String := hostTarget ++ "::" ++ place

/-- The target of the editor's messages to the user. -/
def noticeTarget : String := targetOf "host"

/-- The target of the registry of providers. -/
def registryTarget : String := targetOf "environment::registry"

/-- The target of the built-in provider. -/
def providerTarget : String := targetOf "environment::python"

/-- The target of the search for the server's command. -/
def commandTarget : String := targetOf "resolver"

/-- The target of the manager of connections. -/
def lifecycleTarget : String := targetOf "lifecycle"

/-- The target of connections. -/
def connectionTarget : String := targetOf "connection::client"

/-- The target of the watcher of files. -/
def watchTarget : String := targetOf "connection::watcher"

/-- The target of the server's process. -/
def processTarget : String := targetOf "io::process"

/-- The target of the editor's client. -/
def editorTarget : String := targetOf "lsp::client"

/-- The target of sessions. -/
def sessionTarget : String := targetOf "lsp::protocol"

/-- The target of what the server writes to its standard error. -/
def serverTarget : String := "confit_lsp::stderr"

/-- The target of streams of frames. -/
def frameTarget : String := targetOf "lsp::framing"

end ServerLink.Log
