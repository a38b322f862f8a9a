import Mathlib
import ServerLink.Watch

/-!
# The changes of watched files as a diff

Whoever hears what the events about files mean can keep the set of known files without ever seeing
the tracker.

* `Tracker.files` — the set of known files.  A file is told apart by its components, so two
  spellings of a path are one file.
* `Tracker.meanings`, `Tracker.after` — what events mean one after another, and the tracker they
  leave.
* `replay` — the set that somebody keeps who hears the meanings: a file that is created comes in,
  one that is deleted goes out.
* `kinds` — the events of a **single file**: whether it is known after an event is what the event
  said, so a meaning depends on the two latest events only.  `about_meanings` finds this in the
  events of all files, and `turns_kinds` reads off it that creation and deletion alternate.
* **`Tracker.faithful`** — all of it together.
-/

namespace ServerLink.Watch

variable {α : Type} {p : Path} {t : Tracker} {events : List (Path × Bool)}

/-! ## The set of known files -/

namespace Tracker

/-- The files that a tracker knows, each by its components. -/
def files (t : Tracker) : Finset (List Path.Component) :=
  (t.known.map Path.components).toFinset

lemma mem_files : p.components ∈ t.files ↔ t.knows p = true := by
  rw [files, List.mem_toFinset, knows_iff]

lemma card_files (t : Tracker) : t.files.card = t.size := by
  rw [files, List.toFinset_card_of_nodup t.distinct, List.length_map, size]

lemma files_learn (t : Tracker) (p : Path) : (t.learn p).files = insert p.components t.files := by
  rw [learn]
  split_ifs with h
  · exact (Finset.insert_eq_of_mem (mem_files.2 h)).symm
  · ext c
    simp [files, eq_comm]

lemma files_forget (t : Tracker) (p : Path) : (t.forget p).files = t.files.erase p.components := by
  ext c
  simp only [files, forget, List.mem_toFinset, Finset.mem_erase, List.mem_map, List.mem_filter,
    Path.same, Bool.not_eq_true', decide_eq_false_iff_not]
  constructor
  · rintro ⟨q, ⟨hq, hne⟩, rfl⟩
    exact ⟨hne, q, hq, rfl⟩
  · rintro ⟨hne, q, hq, rfl⟩
    exact ⟨q, ⟨hq, hne⟩, rfl⟩

/-- After an event the known files are those before it, with or without its own. -/
lemma files_classify (t : Tracker) (p : Path) (isThere : Bool) :
    (t.classify p isThere).2.files =
      if isThere then insert p.components t.files else t.files.erase p.components := by
  cases isThere <;> cases h : t.knows p <;> simp only [classify, h]
  · rw [if_neg (by simp), Finset.erase_eq_of_notMem (by rw [mem_files, h]; simp)]
  · rw [if_neg (by simp), files_forget]
  · rw [if_pos trivial, files_learn]
  · rw [if_pos trivial, Finset.insert_eq_of_mem (mem_files.2 h)]

lemma knows_classify (t : Tracker) (q : Path) (isThere : Bool) (p : Path) :
    (t.classify q isThere).2.knows p = if q.same p then isThere else t.knows p := by
  rw [Bool.eq_iff_iff, ← mem_files, files_classify, Path.same]
  by_cases hqp : q.components = p.components
  · cases isThere <;> simp [hqp]
  · cases isThere <;> simp [hqp, Ne.symm hqp, mem_files]

end Tracker

/-! ## Runs of events -/

/-- What an event means, by whether its file is known. -/
def meaning (known isThere : Bool) : Option Kind :=
  match isThere, known with
  | true, true => some .changed
  | true, false => some .created
  | false, true => some .deleted
  | false, false => none

lemma Tracker.classify_fst (t : Tracker) (p : Path) (isThere : Bool) :
    (t.classify p isThere).1 = meaning (t.knows p) isThere := by
  cases isThere <;> cases h : t.knows p <;> simp [classify, meaning, h]

@[simp] lemma meaning_eq_created {known isThere : Bool} :
    meaning known isThere = some .created ↔ isThere = true ∧ known = false := by
  cases isThere <;> cases known <;> simp [meaning]

@[simp] lemma meaning_eq_changed {known isThere : Bool} :
    meaning known isThere = some .changed ↔ isThere = true ∧ known = true := by
  cases isThere <;> cases known <;> simp [meaning]

@[simp] lemma meaning_eq_deleted {known isThere : Bool} :
    meaning known isThere = some .deleted ↔ isThere = false ∧ known = true := by
  cases isThere <;> cases known <;> simp [meaning]

@[simp] lemma meaning_eq_none {known isThere : Bool} :
    meaning known isThere = none ↔ isThere = false ∧ known = false := by
  cases isThere <;> cases known <;> simp [meaning]

/-- The tracker after some events. -/
def Tracker.after (t : Tracker) (events : List (Path × Bool)) : Tracker :=
  events.foldl (fun t e => (t.classify e.1 e.2).2) t

/-- What events mean, one after another. -/
def Tracker.meanings (t : Tracker) : List (Path × Bool) → List (Path × Option Kind)
  | [] => []
  | (p, isThere) :: rest =>
    (p, (t.classify p isThere).1) :: meanings (t.classify p isThere).2 rest

/-- A set of files after something was heard about one of them. -/
def hear (set : Finset (List Path.Component)) (news : Path × Option Kind) :
    Finset (List Path.Component) :=
  match news.2 with
  | some .created => insert news.1.components set
  | some .deleted => set.erase news.1.components
  | some .changed | none => set

/-- The set that is kept by hearing what events mean, from some set on. -/
def replay (set : Finset (List Path.Component)) (told : List (Path × Option Kind)) :
    Finset (List Path.Component) :=
  told.foldl hear set

lemma meanings_concat (t : Tracker) (events : List (Path × Bool)) (p : Path) (isThere : Bool) :
    t.meanings (events ++ [(p, isThere)]) =
      t.meanings events ++ [(p, ((t.after events).classify p isThere).1)] := by
  induction events generalizing t with
  | nil => rfl
  | cons e rest ih =>
    rw [List.cons_append, Tracker.meanings, ih]
    rfl

lemma hear_classify (t : Tracker) (p : Path) (isThere : Bool) :
    hear t.files (p, (t.classify p isThere).1) = (t.classify p isThere).2.files := by
  rw [Tracker.files_classify, Tracker.classify_fst]
  cases isThere <;> cases h : t.knows p <;> simp only [meaning, hear]
  · rw [if_neg (by simp), Finset.erase_eq_of_notMem (by rw [Tracker.mem_files, h]; simp)]
  · rw [if_neg (by simp)]
  · rw [if_pos trivial]
  · rw [if_pos trivial, Finset.insert_eq_of_mem (Tracker.mem_files.2 h)]

/-- **The replayed set is the known set**, after every event. -/
lemma replay_meanings (t : Tracker) (events : List (Path × Bool)) :
    replay t.files (t.meanings events) = (t.after events).files := by
  induction events generalizing t with
  | nil => rfl
  | cons e rest ih =>
    rw [Tracker.meanings, replay, List.foldl_cons, hear_classify]
    exact ih _

/-- The replayed set settles what another event means. -/
lemma classify_after (t : Tracker) (events : List (Path × Bool)) (p : Path) (isThere : Bool) :
    ((t.after events).classify p isThere).1 =
      meaning (decide (p.components ∈ replay t.files (t.meanings events))) isThere := by
  rw [Tracker.classify_fst, replay_meanings,
    Bool.eq_iff_iff.2 (decide_eq_true_iff.trans Tracker.mem_files)]

/-! ## One file -/

/-- What is said about one file among others. -/
def about (p : Path) (said : List (Path × α)) : List α := (said.filter (·.1.same p)).map (·.2)

lemma about_cons (x : Path × α) (said : List (Path × α)) :
    about p (x :: said) = if x.1.same p then x.2 :: about p said else about p said := by
  cases h : x.1.same p <;> simp [about, h]

/-- What the events of one file mean, by whether it is known at first. -/
def kinds (known : Bool) : List Bool → List (Option Kind)
  | [] => []
  | isThere :: rest => meaning known isThere :: kinds isThere rest

/-- **Events of other files change nothing.** -/
lemma about_meanings (p : Path) (t : Tracker) (events : List (Path × Bool)) :
    about p (t.meanings events) = kinds (t.knows p) (about p events) := by
  induction events generalizing t with
  | nil => rfl
  | cons e rest ih =>
    obtain ⟨q, isThere⟩ := e
    rw [Tracker.meanings, about_cons, about_cons, ih, Tracker.knows_classify, Tracker.classify_fst]
    cases h : q.same p with
    | false => simp
    | true =>
      have hknows : t.knows q = t.knows p := by
        rw [Bool.eq_iff_iff, ← Tracker.mem_files, ← Tracker.mem_files, of_decide_eq_true h]
      simp [hknows, kinds]

lemma knows_after_of_other (h : ∀ e ∈ events, e.1.same p = false) :
    (t.after events).knows p = t.knows p := by
  induction events generalizing t with
  | nil => rfl
  | cons e rest ih =>
    rw [Tracker.after, List.foldl_cons]
    refine (ih fun e he => h e (List.mem_cons_of_mem _ he)).trans ?_
    rw [Tracker.knows_classify, h e (by simp), if_neg (by simp)]

/-- The creations and deletions among what is said about a file. -/
def turns (said : List (Option Kind)) : List Kind := said.reduceOption.filter (· ≠ .changed)

/-- **Creation and deletion alternate**, and the first is told by whether the file is known. -/
lemma turns_kinds (known : Bool) (flags : List Bool) :
    (turns (kinds known flags)).IsChain (· ≠ ·)
    ∧ ∀ k ∈ (turns (kinds known flags)).head?, k = if known then .deleted else .created := by
  induction flags generalizing known with
  | nil => simp [kinds, turns]
  | cons isThere rest ih =>
    obtain ⟨hchain, hhead⟩ := ih isThere
    have hnext : ∀ k ∈ (turns (kinds isThere rest)).head?,
        (if isThere then Kind.created else .deleted) ≠ k := fun k hk => by
      rw [hhead k hk]
      cases isThere <;> simp
    cases isThere <;> cases known
    case false.false | true.true => exact ⟨hchain, hhead⟩
    case false.true | true.false =>
      exact ⟨List.isChain_cons.2 ⟨hnext, hchain⟩, by simp [kinds, turns, meaning]⟩

/-! ## The whole -/

/-- What the meanings of some events tell. -/
structure Faithful (t : Tracker) (events : List (Path × Bool)) : Prop where
  onward : ∀ p isThere, t.meanings (events ++ [(p, isThere)]) =
    t.meanings events ++ [(p, ((t.after events).classify p isThere).1)]
  /-- Replayed on the first set, they give the known set. -/
  mirrored : replay t.files (t.meanings events) = (t.after events).files
  size : (t.after events).size = (replay t.files (t.meanings events)).card
  /-- What another event means is settled by the replayed set. -/
  created : ∀ p isThere, ((t.after events).classify p isThere).1 = some .created ↔
    isThere = true ∧ p.components ∉ replay t.files (t.meanings events)
  changed : ∀ p isThere, ((t.after events).classify p isThere).1 = some .changed ↔
    isThere = true ∧ p.components ∈ replay t.files (t.meanings events)
  deleted : ∀ p isThere, ((t.after events).classify p isThere).1 = some .deleted ↔
    isThere = false ∧ p.components ∈ replay t.files (t.meanings events)
  nothing : ∀ p isThere, ((t.after events).classify p isThere).1 = none ↔
    isThere = false ∧ p.components ∉ replay t.files (t.meanings events)
  /-- A file is created and deleted in turns, created first just if it was not known. -/
  alternate : ∀ p, (turns (about p (t.meanings events))).IsChain (· ≠ ·)
  first : ∀ p, ∀ k ∈ (turns (about p (t.meanings events))).head?,
    k = .created ↔ p.components ∉ t.files
  /-- What is said of a file depends on its own events, and on whether it was known. -/
  alone : ∀ p (u : Tracker) others, (p.components ∈ u.files ↔ p.components ∈ t.files) →
    about p others = about p events → about p (u.meanings others) = about p (t.meanings events)

/-- **The changes are a faithful diff** of the known files. -/
theorem Tracker.faithful (t : Tracker) (events : List (Path × Bool)) : Faithful t events where
  onward := meanings_concat t events
  mirrored := replay_meanings t events
  size := by rw [replay_meanings, card_files]
  created p isThere := by simp [classify_after]
  changed p isThere := by simp [classify_after]
  deleted p isThere := by simp [classify_after]
  nothing p isThere := by simp [classify_after]
  alternate p := by
    rw [about_meanings]
    exact (turns_kinds _ _).1
  first p k hk := by
    rw [about_meanings] at hk
    rw [(turns_kinds _ _).2 k hk, mem_files]
    cases t.knows p <;> simp
  alone p u others hknown hown := by
    rw [mem_files, mem_files, ← Bool.eq_iff_iff] at hknown
    rw [about_meanings, about_meanings, hown, hknown]

/-- Spellings of one path are one file. -/
example : (Tracker.empty.meanings [(.ofString "a//b", true), (.ofString "a/./b", true),
    (.ofString "a/b/", false)]).map (·.2) = [some .created, some .changed, some .deleted] := by
  decide

end ServerLink.Watch
