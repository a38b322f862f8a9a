import ServerLink.Proofs.Path.Components
import ServerLink.Proofs.Watch.Diff

/-!
# What a batch of events amounts to

Events repeat paths, spell them in several ways and name files that are nobody's business.  The
changes in such a run are told from a shorter list.

* `counts` — whether events about a path count: it lies below the root, and the pattern matches what
  remains of it there.
* `handled` — the paths whose state is looked at: those that count, each when it is first met.
  `mem_handled_iff` and `exists_places_handled` say which these are without the walk.
* `meanings_of_nodup` — among distinct paths the meaning of each is settled by the tracker at the
  start.
* **`collect_batched`** — the batch, the tracker afterwards, and the batch of the same events again,
  all in terms of the handled paths.
-/

namespace ServerLink.Watch

open ServerLink.Path (same_iff)

variable {root p q : Path} {pattern : Glob.Pattern} {isFile : Path → Bool} {t : Tracker}
  {seen events : List Path}

/-! ## The handled paths -/

/-- Whether events about a path count. -/
def counts (root : Path) (pattern : Glob.Pattern) (p : Path) : Bool :=
  (p.relativeTo? root).any pattern.accepts

/-- The paths of some events that are looked at, when some were seen before. -/
def handled (root : Path) (pattern : Glob.Pattern) : (seen : List Path) → List Path → List Path
  | _, [] => []
  | seen, p :: rest =>
    if counts root pattern p && !seen.any (·.same p) then p :: handled root pattern (p :: seen) rest
    else handled root pattern seen rest

/-- The changes in what events mean. -/
def changesOf (told : List (Path × Option Kind)) : List Change :=
  told.filterMap fun (p, kind) => kind.map (Change.mk p)

/-- The states of paths. -/
def statesOf (isFile : Path → Bool) (paths : List Path) : List (Path × Bool) :=
  paths.map fun p => (p, isFile p)

/-- **A run of events** is told as the meanings of the paths that are handled. -/
lemma collect_eq (root : Path) (pattern : Glob.Pattern) (isFile : Path → Bool) (seen : List Path)
    (t : Tracker) (events : List Path) :
    collect root pattern isFile seen t events =
      (changesOf (t.meanings (statesOf isFile (handled root pattern seen events))),
        t.after (statesOf isFile (handled root pattern seen events))) := by
  induction events generalizing seen t with
  | nil => rfl
  | cons p rest ih =>
    rw [collect, handled, counts]
    cases hrelative : p.relativeTo? root with
    | none => exact ih seen t
    | some relative =>
      cases haccepts : pattern.accepts relative with
      | false => simp [haccepts, ih]
      | true =>
        cases hseen : seen.any (·.same p) with
        | true => simp [haccepts, ih]
        | false =>
          -- the path is looked at: its meaning comes first, and the rest goes on behind it
          cases hkind : (t.classify p (isFile p)).1 <;>
            simp [haccepts, hkind, ih, statesOf, changesOf, Tracker.meanings, Tracker.after]

/-- Each path is handled once, and none that was seen before. -/
lemma handled_fresh (root : Path) (pattern : Glob.Pattern) (seen events : List Path) :
    ((handled root pattern seen events).map Path.components).Nodup
    ∧ ∀ p ∈ handled root pattern seen events, ∀ q ∈ seen, q.same p = false := by
  induction events generalizing seen with
  | nil => simp [handled]
  | cons p rest ih =>
    rw [handled]
    split_ifs with h
    · obtain ⟨hnodup, hfresh⟩ := ih (p :: seen)
      simp only [Bool.and_eq_true, Bool.not_eq_true', List.any_eq_false, Bool.not_eq_true] at h
      refine ⟨List.nodup_cons.2 ⟨?_, hnodup⟩, ?_⟩
      · rintro hmem
        obtain ⟨q, hq, hsame⟩ := List.mem_map.1 hmem
        have hother := hfresh q hq p List.mem_cons_self
        rw [same_iff.2 hsame.symm] at hother
        cases hother
      · intro q hq r hr
        rcases List.mem_cons.1 hq with rfl | hq
        · exact h.2 r hr
        · exact hfresh q hq r (List.mem_cons_of_mem _ hr)
    · exact ih seen

lemma handled_concat (root : Path) (pattern : Glob.Pattern) (seen events : List Path) (p : Path) :
    handled root pattern seen (events ++ [p]) = handled root pattern seen events ++
      if counts root pattern p && !(seen ++ handled root pattern seen events).any (·.same p)
        then [p]
      else [] := by
  induction events generalizing seen with
  | nil => simp [handled]
  | cons q rest ih =>
    rw [List.cons_append, handled, handled]
    by_cases hq : counts root pattern q && !seen.any (·.same q)
    · -- what was seen and what is handled grow by the same path, in another order
      have hgrown : ∀ later : List Path, (q :: seen ++ later).any (·.same p) =
          (seen ++ q :: later).any (·.same p) := fun later => by simp [Bool.or_left_comm]
      rw [if_pos hq, if_pos hq, ih, hgrown, List.cons_append]
    · rw [if_neg hq, if_neg hq, ih]

lemma mem_of_mem_handled (h : p ∈ handled root pattern seen events) :
    p ∈ events ∧ counts root pattern p = true := by
  induction events generalizing seen with
  | nil => simp [handled] at h
  | cons q rest ih =>
    rw [handled] at h
    split_ifs at h with hq
    · rcases List.mem_cons.1 h with rfl | h
      · exact ⟨List.mem_cons_self, (Bool.and_eq_true_iff.1 hq).1⟩
      · exact ⟨List.mem_cons_of_mem _ (ih h).1, (ih h).2⟩
    · exact ⟨List.mem_cons_of_mem _ (ih h).1, (ih h).2⟩

/-- No path that counts is passed over, but for its other spellings. -/
lemma handled_covers (seen : List Path) (h : q ∈ events) (hq : counts root pattern q = true) :
    ∃ p ∈ seen ++ handled root pattern seen events, p.same q = true := by
  induction events generalizing seen with
  | nil => cases h
  | cons r rest ih =>
    rw [handled]
    rcases List.mem_cons.1 h with rfl | h
    · split_ifs with hr
      · exact ⟨q, by simp, same_iff.2 rfl⟩
      · rw [hq, Bool.true_and, Bool.not_eq_true', Bool.not_eq_false, List.any_eq_true] at hr
        obtain ⟨p, hp, hsame⟩ := hr
        exact ⟨p, List.mem_append_left _ hp, hsame⟩
    · split_ifs with hr
      · obtain ⟨p, hp, hsame⟩ := ih (r :: seen) h
        exact ⟨p, by simpa [or_left_comm] using hp, hsame⟩
      · exact ih seen h

/-! ## The first event about a path -/

/-- The event at a place is the first about its path that counts. -/
structure First (root : Path) (pattern : Glob.Pattern) (events : List Path) (i : ℕ) (p : Path) :
    Prop where
  here : events[i]? = some p
  counted : counts root pattern p = true
  earlier : ∀ j < i, ∀ q, events[j]? = some q → counts root pattern q = true → q.same p = false

lemma First.lt {i : ℕ} (h : First root pattern events i p) : i < events.length :=
  (List.getElem?_eq_some_iff.1 h.here).1

/-- What comes later does not change which events are first. -/
lemma First.append {i : ℕ} (h : First root pattern events i p) (later : List Path) :
    First root pattern (events ++ later) i p where
  here := by rw [List.getElem?_append_left h.lt, h.here]
  counted := h.counted
  earlier j hj q hq := by
    rw [List.getElem?_append_left (hj.trans h.lt)] at hq
    exact h.earlier j hj q hq

/-- Two first events about one path are one event. -/
lemma First.unique {i j : ℕ} (hp : First root pattern events i p)
    (hq : First root pattern events j q) (hsame : p.same q = true) : i = j := by
  have hsame' : q.same p = true := same_iff.2 (same_iff.1 hsame).symm
  rcases lt_trichotomy i j with h | h | h
  · have := hq.earlier i h p hp.here hp.counted
    rw [hsame] at this
    cases this
  · exact h
  · have := hp.earlier j h q hq.here hq.counted
    rw [hsame'] at this
    cases this

/-- The handled paths are met in the order of the events, each at the first that counts. -/
lemma exists_places_handled (root : Path) (pattern : Glob.Pattern) (events : List Path) :
    ∃ places : List (ℕ × Path), handled root pattern [] events = places.map (·.2)
      ∧ places.Pairwise (·.1 < ·.1) ∧ ∀ x ∈ places, First root pattern events x.1 x.2 := by
  induction events using List.reverseRecOn with
  | nil => exact ⟨[], rfl, .nil, by simp⟩
  | append_singleton events p ih =>
    obtain ⟨places, hplaces, hordered, hfirst⟩ := ih
    rw [handled_concat, hplaces]
    split_ifs with h
    · rw [List.nil_append, Bool.and_eq_true, Bool.not_eq_true', List.any_eq_false] at h
      refine ⟨places ++ [(events.length, p)], by simp, ?_, ?_⟩
      · refine List.pairwise_append.2 ⟨hordered, List.pairwise_singleton _ _, fun x hx y hy => ?_⟩
        rw [List.mem_singleton.1 hy]
        exact (hfirst x hx).lt
      · intro x hx
        rcases List.mem_append.1 hx with hx | hx
        · exact (hfirst x hx).append [p]
        rw [List.mem_singleton.1 hx]
        refine ⟨by simp, h.1, fun j hj q hq hcounted => ?_⟩
        rw [List.getElem?_append_left hj] at hq
        -- an earlier path that counts is another spelling of a handled one
        obtain ⟨r, hr, hsame⟩ := handled_covers [] (List.mem_of_getElem? hq) hcounted
        rw [List.nil_append, hplaces] at hr
        rw [Bool.eq_false_iff]
        exact fun hqp => h.2 r hr (same_iff.2 ((same_iff.1 hsame).trans (same_iff.1 hqp)))
    · exact ⟨places, List.append_nil _, hordered, fun x hx => (hfirst x hx).append [p]⟩

lemma mem_handled_iff : p ∈ handled root pattern [] events
    ↔ ∃ i, First root pattern events i p := by
  obtain ⟨places, hplaces, -, hfirst⟩ := exists_places_handled root pattern events
  constructor
  · intro hp
    rw [hplaces] at hp
    obtain ⟨x, hx, rfl⟩ := List.mem_map.1 hp
    exact ⟨x.1, hfirst x hx⟩
  · rintro ⟨i, hi⟩
    obtain ⟨q, hq, hsame⟩ := handled_covers [] (List.mem_of_getElem? hi.here) hi.counted
    rw [List.nil_append] at hq
    have hq' := hq
    rw [hplaces] at hq'
    obtain ⟨x, hx, rfl⟩ := List.mem_map.1 hq'
    have hplace := (hfirst x hx).unique hi hsame
    have hhere := (hfirst x hx).here
    rw [hplace, hi.here] at hhere
    rwa [Option.some.inj hhere]

/-! ## Distinct paths -/

/-- Among distinct paths the meaning of each is settled at the start. -/
lemma meanings_of_nodup (isFile : Path → Bool) (t : Tracker) {paths : List Path}
    (h : (paths.map Path.components).Nodup) :
    t.meanings (statesOf isFile paths) =
      paths.map fun p => (p, meaning (t.knows p) (isFile p)) := by
  induction paths generalizing t with
  | nil => rfl
  | cons p rest ih =>
    rw [List.map_cons, List.nodup_cons] at h
    rw [statesOf, List.map_cons, Tracker.meanings, List.map_cons, Tracker.classify_fst,
      ← statesOf, ih _ h.2]
    refine congrArg _ (List.map_congr_left fun q hq => ?_)
    have hother : p.same q = false := by
      rw [Bool.eq_false_iff]
      exact fun hsame => h.1 (List.mem_map.2 ⟨q, hq, (same_iff.1 hsame).symm⟩)
    rw [Tracker.knows_classify, hother, if_neg (by simp)]

/-- Among distinct paths the state of each is the last heard of it. -/
lemma knows_after_of_nodup (isFile : Path → Bool) (t : Tracker) {paths : List Path}
    (h : (paths.map Path.components).Nodup) (hp : p ∈ paths) :
    (t.after (statesOf isFile paths)).knows p = isFile p := by
  induction paths generalizing t with
  | nil => cases hp
  | cons q rest ih =>
    rw [List.map_cons, List.nodup_cons] at h
    rcases List.mem_cons.1 hp with rfl | hp
    · refine (knows_after_of_other (t := (t.classify p (isFile p)).2) ?_).trans ?_
      · intro e he
        obtain ⟨r, hr, rfl⟩ := List.mem_map.1 he
        rw [Bool.eq_false_iff]
        exact fun hsame => h.1 (List.mem_map.2 ⟨r, hr, same_iff.1 hsame⟩)
      · rw [Tracker.knows_classify, same_iff.2 rfl, if_pos rfl]
    · exact ih _ h.2 hp

/-! ## The batch -/

lemma meaning_isSome {known isThere : Bool} :
    (meaning known isThere).isSome = (known || isThere) := by
  cases known <;> cases isThere <;> rfl

lemma mem_changesOf_iff {told : List (Path × Option Kind)} {c : Change} :
    c ∈ changesOf told ↔ (c.path, some c.kind) ∈ told := by
  simp only [changesOf, List.mem_filterMap, Option.map_eq_some_iff]
  constructor
  · rintro ⟨⟨p, kind⟩, hmem, k, rfl, rfl⟩
    exact hmem
  · exact fun h => ⟨_, h, c.kind, rfl, rfl⟩

lemma map_fst_meanings (t : Tracker) (states : List (Path × Bool)) :
    (t.meanings states).map (·.1) = states.map (·.1) := by
  induction states generalizing t with
  | nil => rfl
  | cons state states ih => rw [Tracker.meanings, List.map_cons, List.map_cons, ih]

/-- A change is about a path of the events. -/
lemma path_mem_of_mem_collect {c : Change} (h : c ∈ (collect root pattern isFile seen t events).1) :
    c.path ∈ events := by
  rw [collect_eq, mem_changesOf_iff] at h
  have hpath := List.mem_map_of_mem (f := Prod.fst) h
  rw [map_fst_meanings, statesOf, List.map_map] at hpath
  obtain ⟨p, hp, hsame⟩ := List.mem_map.1 hpath
  obtain rfl : p = c.path := hsame
  exact (mem_of_mem_handled hp).1

lemma changesOf_paths_sublist (told : List (Path × Option Kind)) :
    ((changesOf told).map Change.path).Sublist (told.map (·.1)) := by
  induction told with
  | nil => exact .slnil
  | cons x told ih =>
    obtain ⟨p, _ | k⟩ := x
    · exact ih.cons _
    · exact ih.cons_cons _

/-- Of paths that are known just when they exist, those that exist are told as changed. -/
lemma changesOf_settled {paths : List Path} (h : ∀ p ∈ paths, t.knows p = isFile p) :
    changesOf (paths.map fun p => (p, meaning (t.knows p) (isFile p))) =
      (paths.filter isFile).map fun p => ⟨p, .changed⟩ := by
  induction paths with
  | nil => rfl
  | cons p rest ih =>
    have hrest := ih fun q hq => h q (List.mem_cons_of_mem _ hq)
    rw [changesOf] at hrest
    rw [changesOf, List.map_cons, List.filterMap_cons, hrest, h p List.mem_cons_self]
    cases hp : isFile p <;> simp [meaning, hp]

/-- What a run of events amounts to, told from the paths that are handled. -/
structure Batched (root : Path) (pattern : Glob.Pattern) (isFile : Path → Bool) (t : Tracker)
    (events handled : List Path) (batch : List Change) (t' : Tracker) : Prop where
  /-- Handled are the first events about each path that counts, in their order. -/
  first : ∀ p, p ∈ handled ↔ ∃ i, First root pattern events i p
  ordered : ∃ places : List (ℕ × Path), handled = places.map (·.2) ∧
    places.Pairwise (·.1 < ·.1) ∧ ∀ x ∈ places, First root pattern events x.1 x.2
  /-- Each event that counts is about exactly one of them. -/
  complete : ∀ q ∈ events, counts root pattern q = true → ∃! p, p ∈ handled ∧ p.same q = true
  /-- Each is classified once, against its existence, and the batch holds what that meant. -/
  classified : t' = t.after (statesOf isFile handled)
  told : batch = changesOf (handled.map fun p => (p, meaning (t.knows p) (isFile p)))
  once : (batch.map (·.path.components)).Nodup
  inside : ∀ c ∈ batch, c.path ∈ handled ∧ ∃ relative, c.path.relativeTo? root = some relative ∧
    c.path.components = root.components ++ relative.components ∧ pattern.accepts relative = true
  /-- A handled path is in the batch unless it was not known and is not there. -/
  missing : ∀ p ∈ handled, (∃ c ∈ batch, c.path = p) ↔ t.knows p = true ∨ isFile p = true
  untouched : ∀ q, (∀ p ∈ handled, p.same q = false) → t'.knows q = t.knows q
  settled : ∀ p ∈ handled, t'.knows p = isFile p
  /-- The same events once more only tell of the handled paths that exist. -/
  again : (collect root pattern isFile [] t' events).1 =
    (handled.filter isFile).map fun p => ⟨p, .changed⟩

/-- **A batch tells each path once and loses none.** -/
theorem collect_batched (root : Path) (pattern : Glob.Pattern) (isFile : Path → Bool) (t : Tracker)
    (events : List Path) :
    ∃ handled, Batched root pattern isFile t events handled
      (collect root pattern isFile [] t events).1 (collect root pattern isFile [] t events).2 := by
  have hnodup := (handled_fresh root pattern [] events).1
  have hmeanings := meanings_of_nodup isFile t hnodup
  refine ⟨handled root pattern [] events, ?_⟩
  rw [collect_eq, hmeanings]
  refine { first := fun p => mem_handled_iff
           ordered := exists_places_handled root pattern events
           complete := ?_, classified := rfl, told := rfl, once := ?_, inside := ?_, missing := ?_
           untouched := ?_, settled := fun p hp => knows_after_of_nodup isFile t hnodup hp
           again := ?_ }
  · -- each name that counts is some spelling of a handled path, and of one only
    intro q hq hcounted
    obtain ⟨p, hp, hsame⟩ := handled_covers [] hq hcounted
    refine ⟨p, ⟨hp, hsame⟩, fun r ⟨hr, hrsame⟩ => ?_⟩
    exact List.inj_on_of_nodup_map hnodup hr hp ((same_iff.1 hrsame).trans (same_iff.1 hsame).symm)
  · have hsub := (changesOf_paths_sublist
      ((handled root pattern [] events).map fun p => (p, meaning (t.knows p) (isFile p)))).map
        Path.components
    simpa [Function.comp_def] using hnodup.sublist (by simpa [Function.comp_def] using hsub)
  · intro c hc
    obtain ⟨p, hp, hpc⟩ := List.mem_map.1 (mem_changesOf_iff.1 hc)
    obtain rfl : p = c.path := congrArg Prod.fst hpc
    have hcounted := (mem_of_mem_handled hp).2
    rw [counts, Option.any_eq_true] at hcounted
    obtain ⟨relative, hrelative, haccepts⟩ := hcounted
    exact ⟨hp, relative, hrelative, Path.components_of_relativeTo? hrelative, haccepts⟩
  · intro p hp
    rw [← Bool.or_eq_true, ← meaning_isSome, Option.isSome_iff_exists]
    constructor
    · rintro ⟨c, hc, rfl⟩
      obtain ⟨q, -, hq⟩ := List.mem_map.1 (mem_changesOf_iff.1 hc)
      obtain ⟨rfl, hkind⟩ := Prod.mk.inj hq
      exact ⟨c.kind, hkind⟩
    · rintro ⟨kind, hkind⟩
      exact ⟨⟨p, kind⟩, mem_changesOf_iff.2 (List.mem_map.2 ⟨p, hp, by rw [hkind]⟩), rfl⟩
  · intro q hq
    refine knows_after_of_other fun e he => ?_
    obtain ⟨p, hp, rfl⟩ := List.mem_map.1 he
    exact hq p hp
  · rw [collect_eq, meanings_of_nodup isFile _ hnodup]
    exact changesOf_settled fun p hp => knows_after_of_nodup isFile t hnodup hp

end ServerLink.Watch
