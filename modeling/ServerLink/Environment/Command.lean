import ServerLink.Environment.Registry
import ServerLink.Log

/-!
# Which server is launched

The server is expected beside the interpreter in use.  Without an interpreter the usual place
inside the project is taken; the search never fails.

* `siblingOf` — the server beside an interpreter.
* `fallback` — the server in the usual place.
* `resolve` — asks the provider of the registry: the command, the registry after it, what the
  provider said, and all that the search showed on its way.
* `resolveAll` — the same again and again.
-/

namespace ServerLink.Environment

/-- The name of the server's program. -/
def serverProgram : Path := .ofString "confit-lsp"

/-- The usual place inside a project. -/
def fallbackDirectory : String := ".venv/bin"

/-- The server in the usual place. -/
def fallback : Path := (Path.ofString fallbackDirectory).join serverProgram

/-- The name of the extension that knows the interpreter. -/
def interpreterExtension : String := "ms-python.python"

/-- What the user is told when that extension is not there. -/
def missingExtension : String := "Python extension is not installed"

/-- The server beside an interpreter.  A path without a directory part is taken for a directory. -/
def siblingOf (interpreter : Path) : Path :=
  match interpreter.parent? with
  | some parent =>
    if parent.bytes.isEmpty then interpreter.join serverProgram else parent.join serverProgram
  | none => interpreter.join serverProgram

/-- What a search found and showed. -/
structure Resolution where
  command : Path
  registry : Registry
  /-- What providers said when they were asked, each with the name of its extension. -/
  said : List (String × Answer)
  shown : List Log.Shown

/-- The questions that were put to another extension. -/
def Resolution.questions (r : Resolution) : List Question :=
  if (r.registry.find? interpreterExtension).any Provider.isExtension then
    r.said.map fun x => x.2.question
  else []

/-- A line of the search. -/
def note (line : Log.Line) : Log.Shown := .line Log.commandTarget line

/-- Asks a provider for the path: the path if there is one, and what is shown. -/
def askPath (p : Provider) : Option Path × List Log.Shown :=
  match p.path? with
  | .ok (some path) => (some path, [note (Log.debug ("Active environment: " ++ path.display))])
  | .ok none => (none, [note (Log.debug "No active environment reported")])
  | .error e =>
    (none, [note (Log.warn ("Active environment lookup failed: " ++ e.failure.message))])

/-- What a provider says of the environment: the provider after it, the path if there is one, its
answers, and what is shown. -/
def askProvider (vars : Variables) (p : Provider) :
    Provider × Option Path × List Answer × List Log.Shown :=
  if p.isActive then
    let (path, shown) := askPath p
    (p.pathAsked, path, [.isActive true, .path p.path?], shown)
  else
    let begun := note (Log.debug "Activating environment discovery") :: p.told vars
    match p.activate vars with
    | (p, none) =>
      let (path, shown) := askPath p
      (p.pathAsked, path, [.isActive false, .activate none, .path p.path?], begun ++ shown)
    | (p, some e) =>
      (p, none, [.isActive false, .activate (some e)],
        begun ++
          [note (Log.warn ("Environment discovery failed to activate: " ++ e.failure.message))])

/-- Decides which server is launched. -/
def resolve (vars : Variables) (r : Registry) : Resolution :=
  match r.find? interpreterExtension with
  | none =>
    { command := fallback, registry := r, said := []
      shown := [note (Log.warn (missingExtension ++ ", falling back to " ++ fallbackDirectory)),
        .notice missingExtension] }
  | some p =>
    let (after, path, answers, shown) := askProvider vars p
    let command := match path with
      | some p => siblingOf p
      | none => fallback
    { command, registry := r.register interpreterExtension after
      said := answers.map fun answer => (interpreterExtension, answer)
      shown := shown ++ [note (Log.info ("Resolved server command: " ++ command.display))] }

/-- Decides again and again, with the process environment of each time. -/
def resolveAll (r : Registry) : List Variables → List Resolution
  | [] => []
  | vars :: later => resolve vars r :: resolveAll (resolve vars r).registry later

end ServerLink.Environment
