import ServerLink.Config
import ServerLink.Files

/-!
# Watched files

* `Tracker` — the files known to exist.  `Tracker.classify` says what an event about a path means
  and keeps the set up to date; `Tracker.scan` fills it from a directory.
* `collect` — the changes in a run of events: each path once, only those that the pattern matches.
* `Watcher` — what a watcher of a directory remembers.  `Watcher.begin` begins to watch a directory,
  and `Watcher.batch` tells what a run of events amounts to.
* `fileEvents` — changes as they are sent to the server.

Two paths are the same file when their components are equal.  A watcher stands at the real place of
its directory, whatever way that was given.
-/

namespace ServerLink.Watch

/-- What happened to a file. -/
inductive Kind where
  | created
  | changed
  | deleted
deriving DecidableEq, Repr

/-- The name of a kind. -/
def Kind.name : Kind → String
  | .created => "created"
  | .changed => "changed"
  | .deleted => "deleted"

/-- The number of a kind on the wire. -/
def Kind.number : Kind → Nat
  | .created => 1
  | .changed => 2
  | .deleted => 3

/-- A change of a file. -/
structure Change where
  path : Path
  kind : Kind
deriving DecidableEq, Repr

/-- The files known to exist, each once. -/
structure Tracker where
  known : List Path
  distinct : (known.map Path.components).Nodup

namespace Tracker

/-- A tracker that knows no file. -/
def empty : Tracker := ⟨[], .nil⟩

/-- Whether a file is known. -/
def knows (t : Tracker) (p : Path) : Bool := t.known.any (·.same p)

/-- How many files are known. -/
def size (t : Tracker) : Nat := t.known.length

theorem knows_iff {t : Tracker} {p : Path} :
    t.knows p = true ↔ p.components ∈ t.known.map Path.components := by
  simp [knows, Path.same]

/-- The tracker that knows one more file. -/
def learn (t : Tracker) (p : Path) : Tracker :=
  if h : t.knows p then t
  else
    ⟨t.known ++ [p], by
      rw [knows_iff] at h
      simpa [List.nodup_append] using
        ⟨t.distinct, fun q hq hsame => h (List.mem_map.2 ⟨q, hq, hsame⟩)⟩⟩

/-- The tracker that knows a file no more. -/
def forget (t : Tracker) (p : Path) : Tracker :=
  ⟨t.known.filter (!·.same p), (t.distinct.sublist (List.filter_sublist.map _))⟩

/-- What an event about a path means, and the tracker after it.  A file that was never there and is
not there now means nothing. -/
def classify (t : Tracker) (p : Path) (isThere : Bool) : Option Kind × Tracker :=
  match isThere, t.knows p with
  | true, true => (some .changed, t)
  | true, false => (some .created, t.learn p)
  | false, true => (some .deleted, t.forget p)
  | false, false => (none, t)

/-- The tracker that knows the files of a tree below a directory that the pattern matches.  `place`
is the path at which the tree stands. -/
def scan (files : Files) (place root : Path) (pattern : Glob.Pattern) : Tracker :=
  let relative := (files.below root).map fun names => (⟨Path.glue names⟩ : Path)
  ((relative.filter pattern.accepts).map (place.join root).descend).foldl learn empty

end Tracker

/-- The changes in a run of events about paths, and the tracker after them.  A path counts once,
with its state at the time of its first event. -/
def collect (root : Path) (pattern : Glob.Pattern) (isFile : Path → Bool) :
    (seen : List Path) → Tracker → List Path → List Change × Tracker
  | _, t, [] => ([], t)
  | seen, t, p :: rest =>
    match p.relativeTo? root with
    | none => collect root pattern isFile seen t rest
    | some relative =>
      if !pattern.accepts relative || seen.any (·.same p) then
        collect root pattern isFile seen t rest
      else
        let (kind, t) := t.classify p (isFile p)
        let (later, t) := collect root pattern isFile (p :: seen) t rest
        match kind with
        | some kind => (⟨p, kind⟩ :: later, t)
        | none => (later, t)

/-- What a watcher remembers: the real path of its directory, its pattern, and the files known to
exist. -/
structure Watcher where
  root : Path
  pattern : Glob.Pattern
  tracker : Tracker

namespace Watcher

/-- Why a directory cannot be watched. -/
def fault (root : Path) (e : SystemError) : WatchError :=
  .watch root (if e = .notFound then .worded "No path was found." else e)

/-- Begins to watch a directory seen from another. -/
def begin (files : Files) (home root : Path) (pattern : Glob.Pattern) : Except WatchError Watcher :=
  match files.locate [] (home.join root) with
  | .error e => .error (fault root e)
  | .ok place =>
    let real := Files.pathTo place
    .ok ⟨real, pattern, .scan files real real pattern⟩

/-- What events about paths amount to, and the watcher after them. -/
def batch (w : Watcher) (files : Files) (events : List Path) : List Change × Watcher :=
  let (changes, tracker) := collect w.root w.pattern files.isFile [] w.tracker events
  (changes, { w with tracker })

end Watcher

/-- A change as it is sent; a path without an identifier is not sent. -/
def Change.event? (c : Change) : Option Json :=
  ((Url.ofFile? c.path).bind Url.identifier?).map fun uri =>
    .obj [("type", .int c.kind.number), ("uri", .str uri)]

/-- Changes as they are sent. -/
def fileEvents (changes : List Change) : List Json := changes.filterMap Change.event?

end ServerLink.Watch
