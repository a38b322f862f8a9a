import Mathlib
import ServerLink.Proofs.Path.Absolute

/-!
# Parents by components

The parent of a path is cut out of its bytes: what means nothing is dropped at the new end, and so
is a leading `.` when nothing else is left.  By components it is the path without its last one.

* **`components_of_parent?`** — the components of a path that has a parent are those of the parent
  and one more, which is not the root.
* `components_of_no_parent` — a path without a parent is the root or empty.
* `exists_parent_iff` — a parent with bytes goes with a second component.
* `components_eq_nil_iff`, `isAbsolute_iff` — which paths have no component, and which start with
  the root.
* `components_join_name` — a name joined to a path is one more component.
-/

namespace ServerLink.Path

variable {p q : Path}

/-! ## Components at the ends -/

lemma stepsOf_of_dropWhile {pieces rest : List Bytes} (h : pieces.reverse.dropWhile isIdle = rest) :
    stepsOf pieces = stepsOf rest.reverse := by
  rw [stepsOf_reverse, ← h, stepsOf_dropWhile, stepsOf_reverse, List.reverse_reverse]

lemma componentOf_ne_root (n : Bytes) : componentOf n ≠ .root := by
  rw [componentOf]
  split_ifs <;> simp

/-- Only the empty path has no component. -/
lemma components_eq_nil_iff : p.components = [] ↔ p.bytes = [] := by
  constructor
  · intro h
    by_contra hne
    rw [components_eq_stepsOf, leadComponent] at h
    cases habsolute : p.isAbsolute with
    | true => simp [habsolute] at h
    | false =>
      cases hhere : p.startsHere with
      | true => simp [habsolute, hhere] at h
      | false =>
        obtain ⟨n, more, hpieces⟩ :=
          List.exists_cons_of_ne_nil (split_ne_nil (p.bytes.drop p.lead.length))
        have hidle := isIdle_head_pieces habsolute hhere hne n (by rw [pieces, hpieces]; rfl)
        rw [pieces, hpieces, stepsOf_cons, hidle] at h
        simp [habsolute, hhere] at h
  · obtain ⟨bytes⟩ := p
    rintro rfl
    rfl

lemma isAbsolute_iff : p.isAbsolute = true ↔ p.components.head? = some .root := by
  constructor
  · intro h
    rw [components_of_isAbsolute h]
    rfl
  · intro h
    obtain ⟨rest, hrest⟩ := List.head?_eq_some_iff.1 h
    exact isAbsolute_of_components hrest

/-! ## The parent -/

/-- **A path with a parent** has the components of the parent and one more. -/
theorem components_of_parent? (h : p.parent? = some q) :
    ∃ c, c ≠ .root ∧ p.components = q.components ++ [c] := by
  rw [parent?, lastPiece?] at h
  cases hlast : p.pieces.reverse.dropWhile isIdle with
  | nil =>
    -- nothing but a leading dot
    rw [hlast] at h
    dsimp only at h
    split_ifs at h with hhere
    obtain ⟨habsolute, hhere⟩ : p.isAbsolute = false ∧ p.startsHere = true := by simpa using hhere
    refine ⟨.here, nofun, ?_⟩
    rw [← Option.some.inj h, components_eq_stepsOf p, stepsOf_of_dropWhile hlast, leadComponent,
      habsolute, hhere]
    rfl
  | cons n before =>
    rw [hlast] at h
    have hbefore : before.dropWhile isIdle <:+ p.pieces.reverse :=
      (List.dropWhile_suffix _).trans ((List.suffix_cons n before).trans
        (hlast ▸ List.dropWhile_suffix _))
    have hprefix : trimEnd before.reverse <+: p.pieces := by
      rw [trimEnd, List.reverse_reverse]
      simpa using List.reverse_prefix.2 hbefore
    have hidle : isIdle n = false := by
      have hnot := List.head?_dropWhile_not isIdle p.pieces.reverse
      rw [hlast] at hnot
      exact hnot
    have hq : q = ⟨p.lead ++ glue (trimEnd before.reverse)⟩ := by
      rw [trimEnd, List.reverse_reverse]
      exact (Option.some.inj h).symm
    refine ⟨componentOf n, componentOf_ne_root n, ?_⟩
    rw [hq, components_lead_append hprefix, stepsOf_trimEnd, components_eq_stepsOf,
      stepsOf_of_dropWhile hlast, List.reverse_cons, stepsOf_append, List.append_assoc,
      stepsOf_cons, if_neg (by simp [hidle]), stepsOf_nil]

/-- A path without a parent is the root, or it is empty. -/
theorem components_of_no_parent (h : p.parent? = none) :
    p.components = [.root] ∨ p.components = [] := by
  rw [parent?, lastPiece?] at h
  cases hlast : p.pieces.reverse.dropWhile isIdle with
  | nil =>
    rw [components_eq_stepsOf, stepsOf_of_dropWhile hlast, leadComponent]
    cases habsolute : p.isAbsolute with
    | true => exact .inl rfl
    | false =>
      cases hhere : p.startsHere with
      | true => simp [hlast, habsolute, hhere] at h
      | false => exact .inr rfl
  | cons n before => simp [hlast] at h

/-- A path has a parent with bytes just if it has more than one component. -/
lemma exists_parent_iff : (∃ q, p.parent? = some q ∧ q.bytes ≠ []) ↔ 1 < p.components.length := by
  constructor
  · rintro ⟨q, hq, hne⟩
    obtain ⟨c, -, hc⟩ := components_of_parent? hq
    have hlength := List.length_pos_iff.2 (mt components_eq_nil_iff.1 hne)
    rw [hc, List.length_append, List.length_singleton]
    omega
  · intro h
    cases hq : p.parent? with
    | none =>
      rcases components_of_no_parent hq with hroot | hnil
      · simp [hroot] at h
      · simp [hnil] at h
    | some q =>
      obtain ⟨c, -, hc⟩ := components_of_parent? hq
      refine ⟨q, rfl, fun hnil => ?_⟩
      rw [hc, components_eq_nil_iff.2 hnil] at h
      simp at h

/-! ## A name below -/

/-- A name joined to a path is one more component. -/
lemma components_join_name (p : Path) {n : Bytes} (h : IsName n) :
    (p.join ⟨n⟩).components = p.components ++ [.name n] := by
  have hglue : glue [n] = n := by simp [glue, List.intercalate]
  have hdescend : (p.descend ⟨glue [n]⟩).components = p.components ++ [n].map .name :=
    components_descend p (by simpa using h)
  rwa [hglue, descend, if_neg (by simpa using h.1)] at hdescend

end ServerLink.Path
