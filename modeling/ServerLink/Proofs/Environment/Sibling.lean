import Mathlib
import ServerLink.Environment.Command
import ServerLink.Proofs.Path.Parent

/-!
# The server beside an interpreter

An interpreter is any path: nobody looks whether something is there.  Its directory is its parent,
or the path itself where the parent has no bytes; bytes are cut and put together again, and what
comes of it is described by components.

* `directoryOf` — the directory of an interpreter.  It starts where the interpreter does
  (`isAbsolute_directoryOf`) and is empty only with it (`directoryOf_ne_nil`).
* `components_siblingOf` — the server is one component below that directory.
* **`siblingOf_beside`** — what follows for every interpreter; above all, the server beside the
  server is the server itself.
-/

namespace ServerLink.Environment

open ServerLink.Path

variable {p q : Path}

/-- The directory of an interpreter. -/
def directoryOf (p : Path) : Path :=
  match p.parent? with
  | some q => if q.bytes.isEmpty then p else q
  | none => p

lemma siblingOf_eq (p : Path) : siblingOf p = (directoryOf p).join serverProgram := by
  rw [siblingOf, directoryOf]
  cases p.parent? with
  | none => rfl
  | some q =>
    dsimp only
    split_ifs <;> rfl

lemma directoryOf_of_parent (hq : p.parent? = some q) (hne : q.bytes ≠ []) : directoryOf p = q := by
  simp [directoryOf, hq, hne]

lemma directoryOf_of_bare (h : ∀ q, p.parent? = some q → q.bytes = []) : directoryOf p = p := by
  rw [directoryOf]
  cases hq : p.parent? with
  | none => rfl
  | some q => simp [h q hq]

/-- The directory is the parent, or the path itself. -/
lemma directoryOf_cases (p : Path) :
    directoryOf p = p ∨ p.parent? = some (directoryOf p) ∧ (directoryOf p).bytes ≠ [] := by
  by_cases h : ∃ q, p.parent? = some q ∧ q.bytes ≠ []
  · obtain ⟨q, hq, hne⟩ := h
    rw [directoryOf_of_parent hq hne]
    exact .inr ⟨hq, hne⟩
  · push Not at h
    exact .inl (directoryOf_of_bare h)

lemma directoryOf_ne_nil (h : p.bytes ≠ []) : (directoryOf p).bytes ≠ [] := by
  rcases directoryOf_cases p with hself | ⟨-, hne⟩
  · rwa [hself]
  · exact hne

lemma isName_serverProgram : IsName serverProgram.bytes := by decide +kernel

/-- **The server is one component** below the directory of the interpreter. -/
lemma components_siblingOf (p : Path) :
    (siblingOf p).components = (directoryOf p).components ++ [.name serverProgram.bytes] := by
  rw [siblingOf_eq]
  exact components_join_name _ isName_serverProgram

lemma head?_directoryOf (p : Path) : (directoryOf p).components.head? = p.components.head? := by
  rcases directoryOf_cases p with hself | ⟨hparent, hne⟩
  · rw [hself]
  · obtain ⟨c, -, hc⟩ := components_of_parent? hparent
    rw [hc, List.head?_append_of_ne_nil _ (mt components_eq_nil_iff.1 hne)]

lemma isAbsolute_directoryOf (p : Path) : (directoryOf p).isAbsolute = p.isAbsolute := by
  rw [Bool.eq_iff_iff, isAbsolute_iff, isAbsolute_iff, head?_directoryOf]

lemma isAbsolute_siblingOf (p : Path) : (siblingOf p).isAbsolute = p.isAbsolute := by
  rw [← isAbsolute_directoryOf p, Bool.eq_iff_iff, isAbsolute_iff, isAbsolute_iff,
    components_siblingOf]
  cases (directoryOf p).components <;> simp

/-- The server of an interpreter with bytes has the directory of the interpreter for its own. -/
lemma components_directoryOf_siblingOf (h : p.bytes ≠ []) :
    (directoryOf (siblingOf p)).components = (directoryOf p).components := by
  have hdirectory := List.length_pos_iff.2 (mt components_eq_nil_iff.1 (directoryOf_ne_nil h))
  have hlength : 1 < (siblingOf p).components.length := by
    rw [components_siblingOf, List.length_append, List.length_singleton]
    omega
  obtain ⟨q, hq, hne⟩ := exists_parent_iff.2 hlength
  obtain ⟨c, -, hc⟩ := components_of_parent? hq
  rw [components_siblingOf] at hc
  rw [directoryOf_of_parent hq hne]
  exact (List.append_inj_left' hc rfl).symm

/-- What is known of the server beside an interpreter. -/
structure Beside (p : Path) : Prop where
  /-- A path has a parent with bytes just if it has more than one component, and the parent has all
  of them but the last. -/
  parent : (∃ q, p.parent? = some q ∧ q.bytes ≠ []) ↔ 1 < p.components.length
  /-- With such a parent the server is below it. -/
  below_parent : ∀ q, p.parent? = some q → q.bytes ≠ [] → q.components = p.components.dropLast
    ∧ (siblingOf p).components = q.components ++ [.name serverProgram.bytes]
  /-- Without one it is below the path itself. -/
  below_itself : (∀ q, p.parent? = some q → q.bytes = []) →
    (siblingOf p).components = p.components ++ [.name serverProgram.bytes]
  /-- It has the name of the server. -/
  last : (siblingOf p).components.getLast? = some (.name serverProgram.bytes)
  /-- Interpreters in one directory have one server. -/
  agrees : ∀ other q q', p.parent? = some q → q.bytes ≠ [] → other.parent? = some q' →
    q'.bytes ≠ [] → q.same q' = true → (siblingOf p).same (siblingOf other) = true
  /-- It starts at the root just if the interpreter does. -/
  isAbsolute : (siblingOf p).isAbsolute = p.isAbsolute
  /-- The server beside the server is the server. -/
  again : p.bytes ≠ [] → (siblingOf (siblingOf p)).same (siblingOf p) = true

/-- **Every interpreter has a server beside it.** -/
theorem siblingOf_beside (p : Path) : Beside p where
  parent := exists_parent_iff
  below_parent q hq hne := by
    obtain ⟨c, -, hc⟩ := components_of_parent? hq
    refine ⟨by rw [hc, List.dropLast_concat], ?_⟩
    rw [components_siblingOf, directoryOf_of_parent hq hne]
  below_itself h := by rw [components_siblingOf, directoryOf_of_bare h]
  last := by rw [components_siblingOf, List.getLast?_concat]
  agrees other q q' hq hne hq' hne' hsame := by
    rw [same_iff] at hsame ⊢
    rw [components_siblingOf, components_siblingOf, directoryOf_of_parent hq hne,
      directoryOf_of_parent hq' hne', hsame]
  isAbsolute := isAbsolute_siblingOf p
  again h := by
    rw [same_iff, components_siblingOf (siblingOf p), components_siblingOf p,
      components_directoryOf_siblingOf h]

end ServerLink.Environment
