import ServerLink.Rehearsal.Site
import ServerLink.Watch

/-!
# Watching a directory of a rehearsal

* `Watching` — a watcher of a directory with the events that nobody has asked about yet.
* `Watching.touch` — a change of the files, and the paths whose events it sets off.
* `Watching.batch` — the changes that the events so far amount to.
* `Watching.follow` — a run of changes of the files, and what they amount to.

Events name the real place of a file, whatever way the watched directory was given.
-/

namespace ServerLink.Rehearsal

/-- A watcher, and the paths of the events that nobody has asked about yet. -/
structure Watching where
  watcher : Watch.Watcher
  touched : List Path

/-- The places whose events a change sets off. -/
def touchedPlaces (t : Files) (a : Files.Action) : List (List Bytes) :=
  match a with
  | .write p _ => [(t.resolve? p).getD (t.reach p).2]
  | .removeDirectory p =>
    let place := (t.reach p).2
    (t.entries.filter fun e => place.isPrefixOf e.1).map (·.1)
  | a => a.paths.map fun p => (t.reach p).2

namespace Watching

/-- Begins to watch a directory seen from another. -/
def begin (files : Files) (home root : Path) (pattern : Glob.Pattern) :
    Except WatchError Watching :=
  (Watch.Watcher.begin files home root pattern).map (⟨·, []⟩)

/-- The events of a change. -/
def touch (w : Watching) (files : Files) (a : Files.Action) : Watching :=
  { w with touched := w.touched ++ (touchedPlaces files a).map Files.pathTo }

/-- What the events so far amount to. -/
def batch (w : Watching) (files : Files) : List Watch.Change × Watching :=
  let (changes, watcher) := w.watcher.batch files w.touched
  (changes, ⟨watcher, []⟩)

/-- Makes changes and tells what they amount to; the watcher and the files after them come with
it. -/
def follow (w : Watching) (files : Files) (actions : List Files.Action) :
    List Watch.Change × Watching × Files :=
  let (w, files) := actions.foldl (fun (w, t) a => (touch w t a, t.apply a)) (w, files)
  let (changes, w) := w.batch files
  (changes, w, files)

end Watching

end ServerLink.Rehearsal
