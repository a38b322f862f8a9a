import ServerLink.CommandLine.Read
import ServerLink.Lifecycle.Manager
import ServerLink.Logging.Config

/-!
# The program without an editor

Started from a shell, the program is its own host: the built-in provider is the only one, and what
an editor would show in a window goes to standard error.

* `Host.logConfig` — how its log is written.
* `Host.registry` — its providers, without those that the command line disables.
* `Host.begin` — its activation.
* `Host.started`, `Host.interrupted`, `Host.ended` — what it shows later on.
* `Host.failureText` — what it says when there is no activation.
-/

namespace ServerLink.Host

open Environment Lifecycle

/-- A line of the host. -/
def note (line : Log.Line) : Log.Shown := .line Log.hostTarget line

/-- How the log is written; the process environment is asked first, then the command line. -/
def logConfig (o : CommandLine.Options) (vars : Variables) (processId : String) : LogConfig :=
  (LogConfig.ofVariables processId fun name => List.lookup name vars).override o.logLevel o.logFile

/-- The registry of the built-in provider, and what is shown of it. -/
def wholeRegistry (o : CommandLine.Options) : Registry × List Log.Shown :=
  (Registry.empty.register interpreterExtension (.builtIn o.interpreter none),
    [.line Log.registryTarget
      (Log.debug ("Registering environment discovery provider " ++ interpreterExtension))])

/-- Disables a provider. -/
def disable (r : Registry × List Log.Shown) (id : String) : Registry × List Log.Shown :=
  match r.1.unregister id with
  | (after, true) => (after, r.2 ++ [note (Log.info (id ++ " disabled on the command line"))])
  | (_, false) =>
    (r.1, r.2 ++ [note (Log.warn ("Ignoring --disable-extension " ++ id ++ ": no such extension"))])

/-- The registry, and what is shown of it. -/
def registry (o : CommandLine.Options) : Registry × List Log.Shown :=
  o.disabled.foldl disable (wholeRegistry o)

/-- A manager for the options. -/
def manager (o : CommandLine.Options) : Manager :=
  .new ⟨o.startSeconds.map Duration.ofSeconds, none⟩

/-- The workspace: that of the command line, or the directory in which the program runs. -/
def workspace (o : CommandLine.Options) (directory : Path) : Path := o.workspace.getD directory

/-- Activates the client. -/
def begin (o : CommandLine.Options) (vars : Variables) (directory : Path) : Activation :=
  let (r, shown) := registry o
  let root := workspace o directory
  let a := (manager o).activate vars ⟨root, r⟩
  { a with
    shown := shown ++ [note (Log.info ("Activating confit-lsp client for " ++ root.display))]
      ++ a.shown }

/-- What is shown once the start is over. -/
def started : Except ConnectionError Unit → List Log.Shown
  | .ok () => [note (Log.info "confit-lsp client ready")]
  | .error e =>
    [Manager.note (Log.debug ("Background start finished with error: " ++ e.failure.message)),
      note (Log.warn ("confit-lsp client did not start: "
        ++ (LifecycleError.connection e).failure.message))]

/-- What is shown when the program is interrupted. -/
def interrupted (m : Manager) : List Log.Shown :=
  [note (Log.info "Interrupted, deactivating"), m.parting]

/-- What is shown once the stop is over. -/
def ended : Except ConnectionError Unit → List Log.Shown
  | .ok () => []
  | .error e =>
    [note (Log.error ("Failed to stop confit-lsp client: "
      ++ (LifecycleError.connection e).failure.message))]

/-! ## Failures -/

/-- A refused configuration with its parts by name. -/
def configText : ConfigError → String
  | .badTimeout timeout reason =>
    "InvalidTimeout \x7b timeout: " ++ timeout.text ++ ", reason: " ++ Text.quote reason ++ " \x7d"
  | .badPattern pattern _ => "InvalidWatchPattern \x7b pattern: " ++ Text.quote pattern ++ " \x7d"
  | .badSelector reason => "InvalidSelector \x7b reason: " ++ Text.quote reason ++ " \x7d"

/-- What the program says when there is no activation. -/
def failureText (e : LifecycleError) : String :=
  "Error: " ++ match e with
    | .config e => "Config(" ++ configText e ++ ")"
    | e => e.failure.name

/-- What the program says when its log cannot be written. -/
def logFailureText (e : SystemError) : String := "Failed to initialize logging: " ++ e.message

end ServerLink.Host
