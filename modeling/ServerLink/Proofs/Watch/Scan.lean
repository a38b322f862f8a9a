import Mathlib
import ServerLink.Proofs.Files.Walk
import ServerLink.Proofs.Watch.Diff

/-!
# The first event after a scan

The scan of a directory and the events about its files each have their own idea of a file: the scan
goes by what stands in a place, an event by where its path leads.

* `knows_scan_iff` — what the scan knows: the files to which a path leads without a link.
* **`Tracker.first_of_scan`** — what the first event about a path means after the scan: a change or
  a deletion just if the path led to a file, and that without a link on the way.
* **`Tracker.link_unknown`** — a link to a file is news to the tracker.
-/

namespace ServerLink.Watch.Tracker

variable {files : Files} {place root p : Path} {pattern : Glob.Pattern} {names : List Bytes}

lemma knows_learn {t : Tracker} {q : Path} :
    (t.learn q).knows p = true ↔ t.knows p = true ∨ q.components = p.components := by
  rw [← mem_files, files_learn, Finset.mem_insert, mem_files, or_comm, @eq_comm _ p.components]

lemma knows_foldl_learn {t : Tracker} {paths : List Path} :
    (paths.foldl learn t).knows p = true ↔
      t.knows p = true ∨ ∃ q ∈ paths, q.components = p.components := by
  induction paths generalizing t with
  | nil => simp
  | cons q paths ih =>
    rw [List.foldl_cons, ih, knows_learn, or_assoc]
    simp

/-- **What a scan knows** are the files that the pattern accepts and to which a path leads without a
link. -/
lemma knows_scan_iff (sound : files.Sound) (hnames : ∀ n ∈ names, Path.IsName n)
    (hp : p.same ((place.join root).descend ⟨Path.glue names⟩) = true) :
    (scan files place root pattern).knows p = true ↔ pattern.accepts ⟨Path.glue names⟩ = true
      ∧ files.isFile (root.descend ⟨Path.glue names⟩) = true ∧ files.Direct root names := by
  rw [Path.same, decide_eq_true_eq, Path.components_descend _ hnames] at hp
  rw [← Files.mem_below_iff sound hnames, scan, knows_foldl_learn, hp]
  constructor
  · rintro (h | ⟨q, hq, hsame⟩)
    · exact absurd h (by simp [knows, empty])
    · obtain ⟨r, hr, rfl⟩ := List.mem_map.1 hq
      obtain ⟨hr, haccepts⟩ := List.mem_filter.1 hr
      obtain ⟨ns, hns, rfl⟩ := List.mem_map.1 hr
      rw [Path.components_descend _ (Files.isName_of_mem_below sound hns),
        List.append_cancel_left_eq] at hsame
      obtain rfl : ns = names := List.map_injective_iff.2 (fun _ _ => Path.Component.name.inj) hsame
      exact ⟨haccepts, hns⟩
  · rintro ⟨haccepts, hns⟩
    exact .inr ⟨_, List.mem_map_of_mem (List.mem_filter.2 ⟨List.mem_map_of_mem hns, haccepts⟩),
      Path.components_descend _ hnames⟩

/-- **The first event after a scan** about a path that the pattern accepts, other paths having had
theirs. -/
theorem first_of_scan (sound : files.Sound) (hnames : ∀ n ∈ names, Path.IsName n)
    (haccepts : pattern.accepts ⟨Path.glue names⟩ = true)
    (hp : p.same ((place.join root).descend ⟨Path.glue names⟩) = true) {before : List (Path × Bool)}
    (hbefore : ∀ e ∈ before, e.1.same p = false) (isThere : Bool) :
    (((scan files place root pattern).after before).classify p isThere).1 =
      if files.isFile (root.descend ⟨Path.glue names⟩) = true ∧ files.Direct root names then
        if isThere then some .changed else some .deleted
      else if isThere then some .created else none := by
  have hknows : (scan files place root pattern).knows p = true ↔ _ :=
    knows_scan_iff sound hnames hp
  rw [classify_fst, knows_after_of_other hbefore]
  split_ifs with hfile hthere hthere
  · rw [hknows.2 ⟨haccepts, hfile⟩, hthere]
    rfl
  · rw [hknows.2 ⟨haccepts, hfile⟩, Bool.eq_false_iff.2 hthere]
    rfl
  · rw [Bool.eq_false_iff.2 fun h => hfile (hknows.1 h).2, hthere]
    rfl
  · rw [Bool.eq_false_iff.2 fun h => hfile (hknows.1 h).2, Bool.eq_false_iff.2 hthere]
    rfl

/-! ## A workspace with links -/

/-- Every TOML file at any depth. -/
def everyToml : Glob.Pattern :=
  ⟨"**/*.toml", .deepStart :: .star :: ".toml".toList.map .literal⟩

/-- Names as bytes. -/
def namesOf (names : List String) : List Bytes := names.map Utf8.ofString

/-- A workspace with a file, a file in a directory, and links to both. -/
def workspace : Files :=
  ⟨[(namesOf ["ws"], .directory), (namesOf ["ws", "a.toml"], .file []),
    (namesOf ["ws", "sub"], .directory), (namesOf ["ws", "sub", "b.toml"], .file []),
    (namesOf ["ws", "link.toml"], .link (.ofString "a.toml")),
    (namesOf ["ws", "linked"], .link (.ofString "sub"))]⟩

/-- A file in a directory of the workspace is deleted, and its path is spelled in another way. -/
theorem first_of_scan_deleted :
    workspace.Sound ∧ (∀ n ∈ namesOf ["sub", "b.toml"], Path.IsName n)
    ∧ everyToml.accepts ⟨Path.glue (namesOf ["sub", "b.toml"])⟩ = true
    ∧ (((scan workspace (.ofString "/home") (.ofString "ws") everyToml).after
        [(.ofString "/home/ws/a.toml", true)]).classify
          (.ofString "/home/ws/./sub//b.toml") false).1
      = some .deleted := by
  have sound : workspace.Sound := by decide +kernel
  have hnames : ∀ n ∈ namesOf ["sub", "b.toml"], Path.IsName n := by decide +kernel
  have haccepts : everyToml.accepts ⟨Path.glue (namesOf ["sub", "b.toml"])⟩ = true := by
    decide +kernel
  refine ⟨sound, hnames, haccepts, ?_⟩
  rw [first_of_scan sound hnames haccepts (by decide +kernel) (by decide +kernel)]
  decide +kernel

/-- **A link to a file is unknown** to a tracker that scanned its directory: the file was there, and
yet the first event calls it new, and says nothing when it has gone. -/
theorem link_unknown :
    ¬ ∀ (files : Files) (place root : Path) (pattern : Glob.Pattern) (names : List Bytes),
      files.Sound → (∀ n ∈ names, Path.IsName n) → pattern.accepts ⟨Path.glue names⟩ = true →
      files.isFile (root.descend ⟨Path.glue names⟩) = true →
      ((scan files place root pattern).classify ((place.join root).descend ⟨Path.glue names⟩)
        true).1 = some .changed
      ∧ ((scan files place root pattern).classify ((place.join root).descend ⟨Path.glue names⟩)
        false).1 = some .deleted := by
  intro h
  have hlink := h workspace (.ofString "/home") (.ofString "ws") everyToml (namesOf ["link.toml"])
    (by decide +kernel) (by decide +kernel) (by decide +kernel) (by decide +kernel)
  exact absurd hlink.1 (by decide +kernel)

end ServerLink.Watch.Tracker
