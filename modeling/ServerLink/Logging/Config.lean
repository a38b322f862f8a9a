import ServerLink.Path

/-!
# Configuration of the log

* `LogConfig` — the level, the file if there is one, and the form of the lines.
* `LogConfig.ofVariables` — what the process environment asks for.
* `LogConfig.override` — what a command line asks for wins.
* `withMark` — a file name with a mark before its extension, so that processes do not share a file.
-/

namespace ServerLink

/-- How the log is written. -/
structure LogConfig where
  level : String
  file : Option Path
  json : Bool
deriving DecidableEq, Repr

namespace LogConfig

/-- A file whose name carries a mark before its extension.  A name that is no text is replaced as
far as needed; a path without a name stays as it is. -/
def withMark (mark : String) (p : Path) : Path :=
  match p.stem? with
  | none => p
  | some stem =>
    let opening := Utf8.ofString (Utf8.toStringLossy stem ++ "." ++ mark)
    match p.extension?.bind Utf8.toString? with
    | some "" | none => p.withFileName opening
    | some ext => p.withFileName (opening ++ Utf8.ofString ("." ++ ext))

/-- The configuration that nobody has asked to change. -/
def usual : LogConfig := ⟨"info", none, false⟩

/-- What the process environment asks for; values that are no text count as not set.  `mark` tells
this process from others. -/
def ofVariables (mark : String) (lookup : String → Option Bytes) : LogConfig :=
  let text? (name : String) := (lookup name).bind Utf8.toString?
  let unique := text? "CONFIT_LOG_UNIQUE" = some "true"
  { level := (text? "RUST_LOG").getD usual.level
    file := (text? "CONFIT_LOG_FILE").map fun f =>
      if unique then withMark mark (.ofString f) else .ofString f
    json := text? "CONFIT_LOG_JSON" = some "true" }

/-- The configuration with what a command line asks for. -/
def override (c : LogConfig) (level : Option String) (file : Option Path) : LogConfig :=
  { c with level := level.getD c.level, file := file <|> c.file }

end LogConfig

end ServerLink
