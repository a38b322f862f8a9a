import Mathlib

/-!
# Histories

A machine that takes steps, when they can happen, has a history: what it did from a first state on.

* `History` — the steps that were taken, each with the state in which it was taken, and the state
  that came of them.
* `History.append` — what happened after a history goes on with it.
* `History.last`, `History.before` — the places in a history.
* `trail` — the history of steps that are taken one after another (`of_foldlM`, `mem_of_mem_trail`).
* **`History.invariant`**, `History.stays` — what every step preserves, from the first state on or
  from a later one.
* `Since` — what happened last of two kinds of things; `since_append` tells it step by step.
-/

namespace ServerLink

/-- The histories of a machine from its first state on. -/
inductive History {σ α : Type} (next? : σ → α → Option σ) (first : σ) :
    List (σ × α) → σ → Prop where
  | start : History next? first [] first
  | step {past : List (σ × α)} {s t : σ} {a : α} (run : History next? first past s)
      (next : next? s a = some t) : History next? first (past ++ [(s, a)]) t

/-- Steps that are taken one after another, each with the state in which it is taken. -/
def trail {σ α : Type} (next? : σ → α → Option σ) (s : σ) : List α → List (σ × α)
  | [] => []
  | a :: rest => (s, a) :: (next? s a).elim [] (trail next? · rest)

namespace History

variable {σ α : Type} {next? : σ → α → Option σ} {first s t : σ} {a : α} {x : σ × α}
  {past later early late : List (σ × α)} {P : σ → Prop}

lemma single (next : next? s a = some t) : History next? s [(s, a)] t := start.step next

lemma append (h : History next? first past s) (hlater : History next? s later t) :
    History next? first (past ++ later) t := by
  induction hlater with
  | start => simpa using h
  | step _ next ih =>
    rw [← List.append_assoc]
    exact ih.step next

/-- Steps that can all be taken have a history. -/
lemma of_foldlM {steps : List α} (h : steps.foldlM next? s = some t) :
    History next? s (trail next? s steps) t := by
  induction steps generalizing s with
  | nil =>
    cases h
    exact start
  | cons a rest ih =>
    obtain ⟨u, hu, hrest⟩ := Option.bind_eq_some_iff.1 h
    rw [trail, hu]
    exact (single hu).append (ih hrest)

lemma mem_of_mem_trail {steps : List α} (h : x ∈ trail next? s steps) : x.2 ∈ steps := by
  induction steps generalizing s with
  | nil => cases h
  | cons a rest ih =>
    rcases List.mem_cons.1 h with rfl | h
    · exact List.mem_cons_self
    · cases hnext : next? s a with
      | none =>
        rw [hnext] at h
        cases h
      | some t =>
        rw [hnext] at h
        exact List.mem_cons_of_mem _ (ih h)

lemma last (h : History next? first (past ++ [x]) t) :
    History next? first past x.1 ∧ next? x.1 x.2 = some t := by
  generalize hall : past ++ [x] = all at h
  cases h with
  | start => exact absurd hall (by simp)
  | step run next =>
    obtain ⟨rfl, hx⟩ := List.append_inj' hall rfl
    cases hx
    exact ⟨run, next⟩

/-- A history up to one of its steps, the step, and what came after it. -/
lemma before (h : History next? first (early ++ x :: late) t) :
    History next? first early x.1 ∧ ∃ u, next? x.1 x.2 = some u ∧ History next? u late t := by
  induction late using List.reverseRecOn generalizing t with
  | nil => exact ⟨h.last.1, t, h.last.2, start⟩
  | append_singleton late y ih =>
    rw [← List.cons_append, ← List.append_assoc] at h
    obtain ⟨hearly, u, hu, hlate⟩ := ih h.last.1
    exact ⟨hearly, u, hu, hlate.step h.last.2⟩

/-- **What every step preserves** holds after a history when it holds before, and so does what the
steps that were taken preserve. -/
theorem stays (h : History next? first past t) (hfirst : P first)
    (hstep : ∀ {s a u}, (s, a) ∈ past → next? s a = some u → P s → P u) : P t := by
  induction h with
  | start => exact hfirst
  | @step past s t a _ next ih =>
    refine hstep (List.mem_append_right _ (List.mem_singleton_self _)) next (ih fun hx => ?_)
    exact hstep (List.mem_append_left _ hx)

/-- What every step preserves holds all along a history from a state where it holds. -/
lemma throughout (h : History next? first past t) (hfirst : P first)
    (hstep : ∀ {s a u}, next? s a = some u → P s → P u) : (∀ x ∈ past, P x.1) ∧ P t := by
  induction h with
  | start => exact ⟨by simp, hfirst⟩
  | @step past s t a _ next ih =>
    refine ⟨fun x hx => ?_, hstep next ih.2⟩
    rcases List.mem_append.1 hx with hx | hx
    · exact ih.1 x hx
    · rw [List.mem_singleton.1 hx]
      exact ih.2

/-- What every step preserves holds after every history from a state where it holds. -/
lemma invariant (hfirst : P first) (hstep : ∀ {s a u}, next? s a = some u → P s → P u)
    (h : History next? first past t) : P t := (h.throughout hfirst hstep).2

end History

/-! ## What happened last -/

section Since

variable {α : Type} {P Q : α → Prop} {past : List α} {x : α}

/-- Something of the first kind happened, and all that happened since is of the second kind. -/
def Since (P Q : α → Prop) (past : List α) : Prop :=
  ∃ early x late, past = early ++ x :: late ∧ P x ∧ ∀ y ∈ late, Q y

lemma not_since_nil : ¬ Since P Q [] := by
  rintro ⟨early, x, late, hall, -, -⟩
  exact absurd hall (by simp)

lemma since_append : Since P Q (past ++ [x]) ↔ P x ∨ Since P Q past ∧ Q x := by
  constructor
  · rintro ⟨early, y, late, hall, hy, hlate⟩
    rcases List.eq_nil_or_concat late with rfl | ⟨late, z, rfl⟩
    · obtain ⟨-, hlast⟩ := List.append_inj' hall rfl
      cases hlast
      exact .inl hy
    · rw [List.concat_eq_append, ← List.cons_append, ← List.append_assoc] at hall
      obtain ⟨rfl, hlast⟩ := List.append_inj' hall rfl
      cases hlast
      refine .inr ⟨⟨early, y, late, rfl, hy, fun z hz => hlate z ?_⟩, hlate x ?_⟩
      · simp [hz]
      · simp
  · rintro (hx | ⟨⟨early, y, late, rfl, hy, hlate⟩, hx⟩)
    · exact ⟨past, x, [], rfl, hx, by simp⟩
    · refine ⟨early, y, late ++ [x], by simp, hy, fun z hz => ?_⟩
      rcases List.mem_append.1 hz with hz | hz
      · exact hlate z hz
      · rw [List.mem_singleton.1 hz]
        exact hx

end Since

end ServerLink
