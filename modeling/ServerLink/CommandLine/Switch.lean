import ServerLink.Path

/-!
# The switches of the command line

* `Switch` — the switches; all but the last two take a value.
* `Switch.word`, `Switch.valueName?`, `Switch.purpose` — what is known of each.
* `helpText`, `versionText`, `usage` — the texts made of it.
-/

namespace ServerLink.CommandLine

/-- A switch of the command line. -/
inductive Switch where
  | workspace
  | interpreter
  | disableExtension
  | logLevel
  | logFile
  | startTimeout
  | help
  | version
deriving DecidableEq, Repr

namespace Switch

/-- All switches, in the order in which they are listed. -/
def all : List Switch :=
  [workspace, interpreter, disableExtension, logLevel, logFile, startTimeout, help, version]

/-- The word of a switch. -/
def word : Switch → String
  | workspace => "workspace"
  | interpreter => "python"
  | disableExtension => "disable-extension"
  | logLevel => "log-level"
  | logFile => "log-file"
  | startTimeout => "init-timeout"
  | help => "help"
  | version => "version"

/-- The letter of a switch, if it has one. -/
def letter? : Switch → Option Char
  | help => some 'h'
  | version => some 'V'
  | _ => none

/-- The name of the value of a switch, if it takes one. -/
def valueName? : Switch → Option String
  | workspace => some "DIR"
  | interpreter => some "PATH"
  | disableExtension => some "ID"
  | logLevel => some "LEVEL"
  | logFile => some "FILE"
  | startTimeout => some "SECS"
  | help | version => none

/-- What a switch is for. -/
def purpose : Switch → String
  | workspace => "Workspace root reported to the server and watched for TOML changes "
      ++ "(defaults to current directory)"
  | interpreter => "Python interpreter of the environment the server is installed in"
  | disableExtension => "Act as if this extension were not installed (repeatable)"
  | logLevel => "Log level (overrides RUST_LOG env var)"
  | logFile => "Log file path (overrides CONFIT_LOG_FILE env var)"
  | startTimeout => "Seconds to wait for the server's initialize response"
  | help => "Print help"
  | version => "Print version"

/-- Whether a switch takes a value. -/
def takesValue (s : Switch) : Bool := s.valueName?.isSome

/-- Whether a switch may be given more than once. -/
def repeats (s : Switch) : Bool := s = disableExtension

/-- A switch as it is shown: its word, and the name of its value. -/
def text (s : Switch) : String :=
  "--" ++ s.word ++ match s.valueName? with
    | some name => " <" ++ name ++ ">"
    | none => ""

/-- The switch of a word. -/
def ofWord? (word : String) : Option Switch := all.find? (·.word = word)

/-- The switch of a letter. -/
def ofLetter? (letter : Char) : Option Switch := all.find? (·.letter? = some letter)

end Switch

/-! ## Texts -/

/-- The name of the program. -/
def programName : String := "confit-client"

/-- The version of the program. -/
def programVersion : String := "0.1.0"

/-- What the program is. -/
def programPurpose : String :=
  "Editor-side client for the confit-lsp TOML language server: "
    ++ "executable resolution and connection lifecycle"

/-- How the program is called, in general or with switches in use. -/
def usage (used : List Switch) : String :=
  "Usage: " ++ programName ++
    if used.isEmpty then " [OPTIONS]" else String.join (used.map fun s => " " ++ s.text)

/-- The front of the line of a switch in the list of switches. -/
def listed (s : Switch) : String :=
  (match s.letter? with
    | some c => "  -" ++ String.singleton c ++ ", "
    | none => "      ") ++ s.text

/-- A text with blanks up to a width. -/
def padded (width : Nat) (s : String) : String :=
  s ++ String.ofList (List.replicate (width - s.length) ' ')

/-- The lines of the list of switches, their purposes one below the other. -/
def switchLines : List String :=
  let width := (Switch.all.map fun s => (listed s).length).foldl max 0 + 2
  Switch.all.map fun s => padded width (listed s) ++ s.purpose

/-- The help. -/
def helpText : String :=
  programPurpose ++ "\n\n" ++ usage [] ++ "\n\nOptions:\n"
    ++ String.join (switchLines.map (· ++ "\n"))

/-- The version. -/
def versionText : String := programName ++ " " ++ programVersion ++ "\n"

end ServerLink.CommandLine
