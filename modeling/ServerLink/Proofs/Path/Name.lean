import Mathlib
import ServerLink.Proofs.Path.Parent
import ServerLink.Proofs.Text.Lossy

/-!
# The name of a file

The name of a file is the last component of its path when that is a name, and giving the file
another name replaces this component: what is cut off at the end of the bytes, slashes and dots that
mean nothing included, is not looked at by anyone who reads components.

* `fileName?_eq_some_iff` — the name is the last component.
* **`components_withFileName`** — a file with another name has the components of its parent and the
  new name; so its parent is the same (`parent_withFileName`).
* `cutAtDot_append`, `cutAtDot_cases` — a name is a stem with a dot and an extension, or all stem.
* `exists_text_of_fileName?` — in a path that is text, the name is text.
-/

namespace ServerLink.Path

variable {p q : Path} {n : Bytes}

/-! ## The last component -/

lemma componentOf_eq_name_iff {piece : Bytes} :
    componentOf piece = .name n ↔ piece ≠ [dot, dot] ∧ piece = n := by
  rw [componentOf]
  split_ifs with h <;> simp [h]

/-- The components of a path whose last piece that means something is known. -/
lemma exists_components_of_lastPiece? {piece : Bytes} {before : List Bytes}
    (h : p.lastPiece? = some (piece, before)) :
    ∃ front, p.components = front ++ [componentOf piece] := by
  rw [lastPiece?] at h
  cases hlast : p.pieces.reverse.dropWhile isIdle with
  | nil => simp [hlast] at h
  | cons m rest =>
    obtain ⟨rfl, rfl⟩ : m = piece ∧ rest = before := by simpa [hlast] using h
    have hidle : isIdle m = false := by
      have hnot := List.head?_dropWhile_not isIdle p.pieces.reverse
      rwa [hlast] at hnot
    refine ⟨p.leadComponent ++ stepsOf rest.reverse, ?_⟩
    rw [components_eq_stepsOf, stepsOf_of_dropWhile hlast, List.reverse_cons, stepsOf_append,
      stepsOf_cons, if_neg (by simp [hidle]), stepsOf_nil, List.append_assoc]

lemma components_of_lastPiece?_none (h : p.lastPiece? = none) : p.components = p.leadComponent := by
  rw [lastPiece?] at h
  cases hlast : p.pieces.reverse.dropWhile isIdle with
  | nil => rw [components_eq_stepsOf, stepsOf_of_dropWhile hlast, List.reverse_nil, stepsOf_nil,
      List.append_nil]
  | cons m rest => simp [hlast] at h

/-- **The name of a file is the last component** of its path. -/
theorem fileName?_eq_some_iff : p.fileName? = some n ↔ p.components.getLast? = some (.name n) := by
  rw [fileName?]
  cases hlast : p.lastPiece? with
  | none =>
    rw [components_of_lastPiece?_none hlast, leadComponent]
    split_ifs <;> simp
  | some found =>
    obtain ⟨piece, before⟩ := found
    obtain ⟨front, hfront⟩ := exists_components_of_lastPiece? hlast
    rw [hfront, List.getLast?_concat, Option.some.injEq, componentOf_eq_name_iff]
    dsimp only
    split_ifs with hup <;> simp [hup]

lemma isName_of_mem_stepsOf {pieces : List Bytes} (h : .name n ∈ stepsOf pieces) :
    n ∈ pieces ∧ n ≠ [] ∧ n ≠ [dot] ∧ n ≠ [dot, dot] := by
  obtain ⟨piece, hpiece, hname⟩ := List.mem_map.1 h
  obtain ⟨hup, rfl⟩ := componentOf_eq_name_iff.1 hname
  obtain ⟨hmem, hidle⟩ := List.mem_filter.1 hpiece
  obtain ⟨hnil, hdot⟩ : piece ≠ [] ∧ piece ≠ [dot] := by simpa [isIdle] using hidle
  exact ⟨hmem, hnil, hdot, hup⟩

lemma name_mem_stepsOf (h : .name n ∈ p.components) : .name n ∈ stepsOf p.pieces := by
  rw [components_eq_stepsOf, List.mem_append] at h
  refine h.resolve_left ?_
  rw [leadComponent]
  split_ifs <;> simp

/-- A name among the components is one that can stand in a directory. -/
lemma isName_of_mem_components (h : .name n ∈ p.components) : IsName n := by
  obtain ⟨hmem, hnil, hdot, hup⟩ := isName_of_mem_stepsOf (name_mem_stepsOf h)
  exact ⟨hnil, slash_notMem_of_mem_pieces hmem, hdot, hup⟩

lemma mem_components_of_fileName? (h : p.fileName? = some n) : .name n ∈ p.components :=
  List.mem_of_getLast? (fileName?_eq_some_iff.1 h)

/-! ## Another name -/

/-- **A file with another name** has the new name below the same parent. -/
theorem components_withFileName {m : Bytes} (h : p.fileName? = some n) (hm : IsName m) :
    ∃ q, p.parent? = some q ∧ (p.withFileName m).components = q.components ++ [.name m] := by
  have hlast := fileName?_eq_some_iff.1 h
  cases hq : p.parent? with
  | none =>
    rcases components_of_no_parent hq with hroot | hnil
    · simp [hroot] at hlast
    · simp [hnil] at hlast
  | some q => exact ⟨q, rfl, by rw [withFileName, h, hq]; exact components_join_name q hm⟩

lemma fileName?_withFileName {m : Bytes} (h : p.fileName? = some n) (hm : IsName m) :
    (p.withFileName m).fileName? = some m := by
  obtain ⟨q, -, hcomponents⟩ := components_withFileName h hm
  rw [fileName?_eq_some_iff, hcomponents, List.getLast?_concat]

lemma parent_withFileName {m : Bytes} (h : p.fileName? = some n) (hm : IsName m) :
    ∃ q q', p.parent? = some q ∧ (p.withFileName m).parent? = some q' ∧ q'.same q = true := by
  obtain ⟨q, hq, hcomponents⟩ := components_withFileName h hm
  cases hq' : (p.withFileName m).parent? with
  | none =>
    rcases components_of_no_parent hq' with hroot | hnil
    · rw [hroot] at hcomponents
      have hlast := congrArg List.getLast? hcomponents
      simp at hlast
    · simp [hnil] at hcomponents
  | some q' =>
    obtain ⟨c, -, hc⟩ := components_of_parent? hq'
    rw [hcomponents] at hc
    exact ⟨q, q', hq, rfl, same_iff.2 (List.append_inj_left' hc rfl).symm⟩

/-! ## Stem and extension -/

lemma bne_dot_of_notMem {n : Bytes} (h : dot ∉ n) : ∀ b ∈ n.reverse, (b != dot) = true :=
  fun _ hb => bne_iff_ne.2 fun hdot => h (hdot ▸ List.mem_reverse.1 hb)

/-- **A name is cut at its last dot**, unless nothing stands in front of it. -/
lemma cutAtDot_append (stem : Bytes) {extension : Bytes} (h : dot ∉ extension) :
    cutAtDot (stem ++ dot :: extension)
      = if stem = [] then (dot :: extension, none) else (stem, some extension) := by
  have hafter : ((stem ++ dot :: extension).reverse.takeWhile (· != dot)).reverse = extension := by
    rw [List.reverse_append, List.reverse_cons, List.append_assoc,
      List.takeWhile_append_of_pos (bne_dot_of_notMem h)]
    simp
  have hlength : (stem ++ dot :: extension).length = stem.length + extension.length + 1 := by
    rw [List.length_append, List.length_cons, Nat.add_assoc]
  have hcount : stem.length + extension.length + 1 - extension.length - 1 = stem.length := by omega
  have hshorter : ¬ extension.length = stem.length + extension.length + 1 := by omega
  simp only [cutAtDot, hafter]
  rw [hlength, hcount, List.take_left]
  by_cases hstem : stem = []
  · simp [hstem]
  · simp [hstem, hshorter]

lemma cutAtDot_of_notMem {n : Bytes} (h : dot ∉ n) : cutAtDot n = (n, none) := by
  have hafter : (n.reverse.takeWhile (· != dot)).reverse = n := by
    rw [List.takeWhile_eq_self_iff.2 (bne_dot_of_notMem h), List.reverse_reverse]
  simp only [cutAtDot, hafter]
  simp

/-- A name is all stem, or it has a stem and an extension. -/
lemma cutAtDot_cases (n : Bytes) : cutAtDot n = (n, none)
    ∨ ∃ stem extension, n = stem ++ dot :: extension ∧ stem ≠ [] ∧ dot ∉ extension
      ∧ cutAtDot n = (stem, some extension) := by
  by_cases hdot : dot ∈ n
  · obtain ⟨back, front, hcut, hback⟩ := List.eq_append_cons_of_mem (List.mem_reverse.2 hdot)
    have hextension : dot ∉ back.reverse := by simpa using hback
    have hn : n = front.reverse ++ dot :: back.reverse := by
      rw [← List.reverse_reverse n, hcut]
      simp
    have happend := cutAtDot_append front.reverse hextension
    rw [← hn] at happend
    by_cases hstem : front.reverse = []
    · rw [hstem, List.nil_append] at hn
      rw [if_pos hstem, ← hn] at happend
      exact .inl happend
    · rw [if_neg hstem] at happend
      exact .inr ⟨_, _, hn, hstem, hextension, happend⟩
  · exact .inl (cutAtDot_of_notMem hdot)

/-! ## Names of text -/

lemma mark_slash : Utf8.Mark slash := ⟨by decide, by decide⟩

lemma mark_dot : Utf8.Mark dot := ⟨by decide, by decide⟩

/-- The pieces of a text are text. -/
lemma exists_text_of_mem_split {cs : List Char} (h : n ∈ split (Utf8.encode cs)) :
    ∃ ds, n = Utf8.encode ds := by
  induction hlength : cs.length using Nat.strong_induction_on generalizing cs with
  | _ k ih =>
    by_cases hslash : slash ∈ Utf8.encode cs
    · obtain ⟨piece, rest, hcut, hpiece⟩ := List.eq_append_cons_of_mem hslash
      obtain ⟨front, back, rfl, hfront, hback⟩ := Utf8.exists_cut mark_slash hcut
      rw [hcut, split_append_slash, split_of_notMem hpiece, List.singleton_append,
        List.mem_cons] at h
      rcases h with rfl | hlater
      · exact ⟨front, hfront.symm⟩
      · exact ih back.length (by simp at hlength; omega) (by rwa [hback]) rfl
    · rw [split_of_notMem hslash, List.mem_singleton] at h
      exact ⟨cs, h⟩

/-- **In a path that is text the name is text.** -/
theorem exists_text_of_fileName? {text : String} (h : (ofString text).fileName? = some n) :
    ∃ ds, n = Utf8.encode ds := by
  have hsteps := name_mem_stepsOf (mem_components_of_fileName? h)
  suffices hmem : n ∈ split (Utf8.encode text.toList) from exists_text_of_mem_split hmem
  have htrail : trail (ofString text).bytes = stepsOf (ofString text).pieces := by
    cases habsolute : (ofString text).isAbsolute with
    | false => exact trail_bytes habsolute
    | true =>
      rw [bytes_of_isAbsolute habsolute, ← List.nil_append (slash :: _), trail_append_slash,
        trail_nil, List.nil_append, trail_glue_pieces fun _ h => slash_notMem_of_mem_pieces h]
  rw [← htrail] at hsteps
  exact (isName_of_mem_stepsOf hsteps).1

end ServerLink.Path
