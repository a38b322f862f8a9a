import ServerLink.Duration
import ServerLink.Failure.Wire
import ServerLink.Path

/-!
# Failures of a connection and around it

`ProcessError` and `WatchError` are what a connection meets beneath it, `ConfigError` what it is
refused for beforehand, `ConnectionError` its own, `LifecycleError` what an activation reports, and
`DiscoveryError` what keeps an environment unknown.
-/

namespace ServerLink

/-- Why an operation on the server's process fails. -/
inductive ProcessError where
  | spawn (command : String) (e : SystemError)
  | system (e : SystemError)
  | notStarted
  | alreadyStarted
  | noInput
  | noOutput
  | noErrors

/-- What is known of a failure of the process. -/
def ProcessError.failure : ProcessError → Failure
  | spawn command e =>
    ⟨["Spawn"], "Failed to spawn " ++ command ++ ": " ++ e.message, [e.message]⟩
  | system e => ⟨["Io"], "I/O error: " ++ e.message, [e.message]⟩
  | notStarted => .plain "NotStarted" "Process not started"
  | alreadyStarted => .plain "AlreadyStarted" "Process already started"
  | noInput => .plain "StdinNotAvailable" "Stdin not available"
  | noOutput => .plain "StdoutNotAvailable" "Stdout not available"
  | noErrors => .plain "StderrNotAvailable" "Stderr not available"

/-- Why files cannot be watched. -/
inductive WatchError where
  | create (e : SystemError)
  | watch (path : Path) (e : SystemError)

/-- What is known of a failure to watch. -/
def WatchError.failure : WatchError → Failure
  | create e =>
    ⟨["Create"], "Failed to create filesystem watcher: " ++ e.message, [e.message]⟩
  | watch path e => ⟨["Watch"], "Failed to watch " ++ path.display, [e.message]⟩

/-- Why a configuration is refused. -/
inductive ConfigError where
  | badTimeout (timeout : Duration) (reason : String)
  | badPattern (pattern : String) (fault : String)
  | badSelector (reason : String)

/-- What is known of a refused configuration. -/
def ConfigError.failure : ConfigError → Failure
  | badTimeout timeout reason =>
    .plain "InvalidTimeout" ("Invalid timeout: " ++ timeout.text ++ " - " ++ reason)
  | badPattern pattern fault =>
    ⟨["InvalidWatchPattern"], "Invalid watch pattern: " ++ pattern, [fault]⟩
  | badSelector reason => .plain "InvalidSelector" ("Invalid document selector: " ++ reason)

/-- Why an operation of a connection fails. -/
inductive ConnectionError where
  | editor (e : EditorError)
  | process (e : ProcessError)
  | watch (e : WatchError)
  | badRoot (path : Path)
  | alreadyStarted
  | notStarted
  | serverExited
  | stopped
  | cancelled

/-- What is known of a failure of a connection. -/
def ConnectionError.failure : ConnectionError → Failure
  | editor e => .wrap "Lsp" "LSP error: " e.failure
  | process e => .wrap "Process" "Process error: " e.failure
  | watch e => .wrap "Watch" "Watch error: " e.failure
  | badRoot path => .plain "InvalidWorkspaceRoot" ("Invalid workspace root: " ++ path.display)
  | alreadyStarted => .plain "AlreadyStarted" "Connection already started"
  | notStarted => .plain "NotStarted" "Connection not started"
  | serverExited => .plain "ServerExited" "Server process exited"
  | stopped => .plain "Stopped" "Connection already stopped"
  | cancelled => .plain "Cancelled" "Connection start cancelled"

/-- Why an activation, or what it began, fails. -/
inductive LifecycleError where
  | alreadyStarted
  | config (e : ConfigError)
  | connection (e : ConnectionError)
  | task (text : String)

/-- What is known of a failure of an activation. -/
def LifecycleError.failure : LifecycleError → Failure
  | alreadyStarted => .plain "AlreadyStarted" "Client already started"
  | config e => .wrap "Config" "Configuration error: " e.failure
  | connection e => .wrap "Connection" "Connection error: " e.failure
  | task text => ⟨["Task"], "Background task failed: " ++ text, [text]⟩

/-- Why no environment is known. -/
inductive DiscoveryError where
  | notActivated
  | activation (text : String)
  | lookup (text : String)
deriving DecidableEq, Repr

/-- What is known of a failure to learn the environment. -/
def DiscoveryError.failure : DiscoveryError → Failure
  | notActivated => .plain "NotActivated" "Environment discovery has not been activated"
  | activation text => .plain "Activation" ("Environment discovery failed to activate: " ++ text)
  | lookup text => .plain "Lookup" ("Active environment lookup failed: " ++ text)

end ServerLink
