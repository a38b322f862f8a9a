import Mathlib
import ServerLink.Text.Blank

/-!
# Lines and white space of plain text

What trimming and cutting do to text in which there is nothing to trim or to cut, and to text that
is put together of pieces.

* `trim_append_left`, `trim_append_right` — white space around a text.
* `splitOn_append_cons`, `splitAtFirst_eq_some_iff` — the separator that comes first.
* `sameIgnoringCase_trim_congr` — trimming does not look at the case of letters.
-/

namespace ServerLink.Text

lemma isBlank_of_isDigit {c : Char} (h : c.isDigit = true) : isBlank c = false := by
  rw [Char.isDigit, Bool.and_eq_true, decide_eq_true_eq, decide_eq_true_eq] at h
  have hlow : 48 ≤ c.toNat := h.1
  have hhigh : c.toNat ≤ 57 := h.2
  simp only [isBlank, Bool.or_eq_false_iff, Bool.and_eq_false_iff, decide_eq_false_iff_not,
    beq_eq_false_iff_ne]
  omega

lemma dropWhile_isBlank {cs : List Char} (h : ∀ c ∈ cs, isBlank c = false) :
    cs.dropWhile isBlank = cs := by
  rw [List.dropWhile_eq_self_iff]
  intro hl
  rw [h _ (List.getElem_mem _)]
  decide

lemma trim_of_forall {cs : List Char} (h : ∀ c ∈ cs, isBlank c = false) : trim cs = cs := by
  have hback : ∀ c ∈ cs.reverse, isBlank c = false := fun c hc => h c (List.mem_reverse.1 hc)
  rw [trim, dropWhile_isBlank h, trimRight, dropWhile_isBlank hback, List.reverse_reverse]

lemma trim_cons {c : Char} (h : isBlank c = true) (cs : List Char) : trim (c :: cs) = trim cs := by
  rw [trim, List.dropWhile_cons_of_pos h, trim]

lemma splitOn_of_notMem {sep : Char} {cs : List Char} (h : sep ∉ cs) : splitOn sep cs = [cs] := by
  induction cs with
  | nil => rfl
  | cons c cs ih =>
    rw [List.mem_cons, not_or] at h
    rw [splitOn, if_neg (Ne.symm h.1), ih h.2]

lemma splitOn_append_cons {sep : Char} {cs : List Char} (h : sep ∉ cs) (rest : List Char) :
    splitOn sep (cs ++ sep :: rest) = cs :: splitOn sep rest := by
  induction cs with
  | nil => simp [splitOn]
  | cons c cs ih =>
    rw [List.mem_cons, not_or] at h
    rw [List.cons_append, splitOn, if_neg (Ne.symm h.1), ih h.2]

lemma lines_of_notMem {cs : List Char} (h : '\n' ∉ cs) (hne : cs ≠ []) : lines cs = [cs] := by
  cases cs with
  | nil => exact absurd rfl hne
  | cons c cs => simp [lines, splitOn_of_notMem h]

lemma splitAtFirst_eq_some_iff {sep : Char} {cs before after : List Char} :
    splitAtFirst sep cs = some (before, after) ↔ cs = before ++ sep :: after ∧ sep ∉ before := by
  induction cs generalizing before with
  | nil => simp [splitAtFirst]
  | cons c cs ih =>
    rw [splitAtFirst]
    by_cases hc : c = sep
    · rw [if_pos hc]
      cases before with
      | nil => simp [hc, eq_comm]
      | cons d before =>
        refine iff_of_false (by simp) ?_
        rintro ⟨hcut, hnot⟩
        rw [List.cons_append, List.cons.injEq] at hcut
        exact hnot (by simp [← hcut.1, hc])
    · rw [if_neg hc]
      cases before with
      | nil => simp [hc]
      | cons d before =>
        rw [Option.map_eq_some_iff]
        constructor
        · rintro ⟨⟨front, back⟩, hfound, heq⟩
          obtain ⟨⟨rfl, rfl⟩, rfl⟩ : (c = d ∧ front = before) ∧ back = after := by simpa using heq
          obtain ⟨rfl, hnot⟩ := ih.1 hfound
          exact ⟨rfl, by simp [Ne.symm hc, hnot]⟩
        · rintro ⟨hcut, hnot⟩
          rw [List.cons_append, List.cons.injEq] at hcut
          rw [List.mem_cons, not_or] at hnot
          exact ⟨(before, after), ih.2 ⟨hcut.2, hnot.2⟩, by rw [hcut.1]⟩

lemma splitAtFirst_of_notMem {sep : Char} {cs : List Char} (h : sep ∉ cs) :
    splitAtFirst sep cs = none := by
  rw [Option.eq_none_iff_forall_ne_some]
  rintro ⟨before, after⟩ hsome
  rw [(splitAtFirst_eq_some_iff.1 hsome).1] at h
  simp at h

/-- White space in front is trimmed off. -/
lemma trim_append_left {pad : List Char} (h : ∀ c ∈ pad, isBlank c = true) (cs : List Char) :
    trim (pad ++ cs) = trim cs := by
  rw [trim, List.dropWhile_append_of_pos h, trim]

/-- White space behind is trimmed off. -/
lemma trim_append_right {pad : List Char} (h : ∀ c ∈ pad, isBlank c = true) (cs : List Char) :
    trim (cs ++ pad) = trim cs := by
  have hback : ∀ c ∈ pad.reverse, isBlank c = true := fun c hc => h c (List.mem_reverse.1 hc)
  rw [trim, trim, List.dropWhile_append]
  split
  · rename_i hnil
    rw [List.isEmpty_iff] at hnil
    rw [hnil, List.dropWhile_eq_nil_iff.2 h]
  · rw [trimRight, trimRight, List.reverse_append, List.dropWhile_append_of_pos hback]

/-- The letters of ASCII are the only characters that have another case. -/
lemma lowerAscii_eq_iff {c sep : Char} (h : sep.toNat < 65) : lowerAscii c = sep ↔ c = sep := by
  rw [lowerAscii]
  split
  · rename_i hletter
    have hlow : 65 ≤ c.toNat := hletter.1
    have hhigh : c.toNat ≤ 90 := hletter.2
    refine iff_of_false ?_ ?_
    · rintro rfl
      rw [Char.toNat_ofNat] at h
      split at h
      · omega
      · rename_i hvalid
        exact hvalid (.inl (by omega))
    · rintro rfl
      omega
  · exact Iff.rfl

lemma isBlank_lowerAscii (c : Char) : isBlank (lowerAscii c) = isBlank c := by
  rw [lowerAscii]
  split
  · rename_i hletter
    have hlow : 65 ≤ c.toNat := hletter.1
    have hhigh : c.toNat ≤ 90 := hletter.2
    have hto : (Char.ofNat (c.toNat + 32)).toNat = c.toNat + 32 := by
      rw [Char.toNat_ofNat, if_pos (.inl (by omega))]
    simp only [isBlank, hto]
    grind
  · rfl

lemma trim_map_lowerAscii (cs : List Char) :
    trim (cs.map lowerAscii) = (trim cs).map lowerAscii := by
  have hblank : isBlank ∘ lowerAscii = isBlank := funext isBlank_lowerAscii
  simp only [trim, trimRight, List.dropWhile_map, hblank, ← List.map_reverse]

/-- Texts that differ in case only are the same, trimmed, as any other text or none. -/
lemma sameIgnoringCase_trim_congr {a b : List Char} (h : sameIgnoringCase a b = true)
    (other : List Char) :
    sameIgnoringCase (trim a) other = sameIgnoringCase (trim b) other := by
  have hmap : a.map lowerAscii = b.map lowerAscii := beq_iff_eq.1 h
  rw [sameIgnoringCase, sameIgnoringCase, ← trim_map_lowerAscii, hmap, trim_map_lowerAscii]

lemma notMem_of_sameIgnoringCase {sep : Char} {a b : List Char} (hsep : sep.toNat < 65)
    (h : sameIgnoringCase a b = true) (ha : sep ∉ a) : sep ∉ b := by
  have hmap : a.map lowerAscii = b.map lowerAscii := beq_iff_eq.1 h
  intro hb
  have hlower : sep ∈ b.map lowerAscii := List.mem_map.2 ⟨sep, hb, (lowerAscii_eq_iff hsep).2 rfl⟩
  rw [← hmap, List.mem_map] at hlower
  obtain ⟨c, hc, hsame⟩ := hlower
  exact ha ((lowerAscii_eq_iff hsep).1 hsame ▸ hc)

end ServerLink.Text
