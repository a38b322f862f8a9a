import ServerLink.Failure.Link
import ServerLink.Glob
import ServerLink.Json.Writer
import ServerLink.Url

/-!
# Configuration of a connection

* `Selector` — which documents are forwarded, by the scheme of their address and their language.
* `Config` — everything a connection is told once and for all.
* `Draft` — a configuration in the making: what has been set so far.  `Draft.set` gives one field a
  value, the last one for a field counts; `Draft.build` checks and completes.
-/

namespace ServerLink

/-- The name of the server in messages. -/
def serverName : String := "confit-lsp"

/-- Which documents are forwarded.  A field that is not set admits all. -/
structure Selector where
  scheme : Option String
  language : Option String
deriving DecidableEq, Repr

namespace Selector

/-- Documents of one scheme and one language. -/
def ofBoth (scheme language : String) : Selector := ⟨some scheme, some language⟩

/-- TOML documents on disk. -/
def tomlFiles : Selector := ofBoth "file" "toml"

/-- Whether a document is forwarded. -/
def accepts (s : Selector) (url : Url) (language : String) : Bool :=
  s.scheme.all (· == String.ofList url.scheme) && s.language.all (· == language)

/-- The selector as a value. -/
def toJson (s : Selector) : Json :=
  .obj (Json.optField "language" (s.language.map .str) ++
    Json.optField "scheme" (s.scheme.map .str))

end Selector

/-- Everything a connection is told. -/
structure Config where
  command : Path
  workingDirectory : Option Path
  workspaceRoot : Path
  selector : Selector
  watch : Glob.Pattern
  startTimeout : Duration
  requestTimeout : Duration
  clientName : String
  clientVersion : String
  watchDelay : Duration

namespace Config

/-- The pattern of every TOML file at any depth. -/
def tomlPattern : String := "**/*.toml"

/-- How long a handshake may take at most. -/
def longestStart : Duration := .ofSeconds 300

/-- A configuration in the making. -/
structure Draft where
  command : Path
  workspaceRoot : Path
  workingDirectory : Option Path
  selector : Selector
  watch : String
  startTimeout : Duration
  requestTimeout : Duration
  clientName : String
  clientVersion : String
  watchDelay : Duration

/-- A configuration for a command and a workspace with everything else as usual. -/
def draft (command workspaceRoot : Path) : Draft :=
  { command, workspaceRoot
    workingDirectory := none
    selector := .tomlFiles
    watch := tomlPattern
    startTimeout := .ofSeconds 30
    requestTimeout := .ofSeconds 10
    clientName := "confit-client"
    clientVersion := "0.1.0"
    watchDelay := .ofMillis 200 }

/-- A value for one field. -/
inductive Setting where
  | workingDirectory (p : Path)
  | selector (s : Selector)
  | watch (pattern : String)
  | startTimeout (d : Duration)
  | requestTimeout (d : Duration)
  | clientName (s : String)
  | clientVersion (s : String)
  | watchDelay (d : Duration)

/-- Gives one field a value. -/
def Draft.set (d : Draft) : Setting → Draft
  | .workingDirectory p => { d with workingDirectory := some p }
  | .selector s => { d with selector := s }
  | .watch pattern => { d with watch := pattern }
  | .startTimeout t => { d with startTimeout := t }
  | .requestTimeout t => { d with requestTimeout := t }
  | .clientName s => { d with clientName := s }
  | .clientVersion s => { d with clientVersion := s }
  | .watchDelay t => { d with watchDelay := t }

/-- Gives fields values, one after another. -/
def Draft.setAll (d : Draft) (settings : List Setting) : Draft := settings.foldl Draft.set d

/-- The timeout that is out of bounds, if one is. -/
def Draft.badTimeout? (d : Draft) : Option ConfigError :=
  if d.startTimeout.isZero then
    some (.badTimeout d.startTimeout "initialization timeout must be greater than zero")
  else if longestStart.nanoseconds < d.startTimeout.nanoseconds then
    some (.badTimeout d.startTimeout "initialization timeout exceeds 300s")
  else if d.requestTimeout.isZero then
    some (.badTimeout d.requestTimeout "request timeout must be greater than zero")
  else none

/-- The pattern of a text, or why it is none. -/
def readPattern (text : String) : Except ConfigError Glob.Pattern :=
  match Glob.Pattern.ofText text with
  | .ok p => .ok p
  | .error f => .error (.badPattern text (f.message text))

/-- Checks what has been set and completes it. -/
def Draft.build (d : Draft) : Except ConfigError Config :=
  -- the timeouts come first, then the selector, then the pattern
  match d.badTimeout? with
  | some e => .error e
  | none =>
    if d.selector.scheme.isNone && d.selector.language.isNone then
      .error (.badSelector "selector must constrain scheme or language")
    else
      match readPattern d.watch with
      | .error e => .error e
      | .ok watch =>
        .ok { command := d.command, workingDirectory := d.workingDirectory
              workspaceRoot := d.workspaceRoot, selector := d.selector, watch
              startTimeout := d.startTimeout, requestTimeout := d.requestTimeout
              clientName := d.clientName, clientVersion := d.clientVersion
              watchDelay := d.watchDelay }

end Config

end ServerLink
