import Mathlib
import ServerLink.Glob

/-!
# What patterns mean

Matching follows the ends that the parts of a pattern leave of a text.  What a pattern means can be
said without ends: each part stands for a set of texts, and a row of parts for what comes of putting
such texts one behind the other.

* `Token.Matches`, `MatchesAll`, `MatchesAny` — the texts that a part, a row of parts and a choice
  of rows stand for.
* `mem_distinct` — dropping repeated ends loses none, as long as all are ends of one text.
* **`Token.mem_step`** — what may be left of a text after a part is what stands behind one of the
  texts of the part.
* **`accepts_iff`** — a row of parts accepts exactly its texts.  `**` on its own accepts all.
-/

namespace ServerLink.Glob

open ServerLink.Path (slash)

variable {s r w : Bytes} {left : List Bytes}

/-! ## Texts of a pattern -/

mutual
/-- The texts that a part of a pattern stands for. -/
def Token.Matches : Token → Bytes → Prop
  | .literal c, a => a = Utf8.encodeChar c
  | .single, a => ∃ b, b ≠ slash ∧ a = [b]
  | .star, a => slash ∉ a
  | .deepStart, a => a = [] ∨ ∃ directory, a = directory ++ [slash]
  | .deepEnd, a => ∃ below, a = slash :: below
  | .deepMiddle, a => a = [slash] ∨ ∃ directory, a = slash :: directory ++ [slash]
  | .oneOf negated ranges, a => ∃ b, inClass negated ranges b = true ∧ a = [b]
  | .branches choices, a => if allVoid choices then a = [] else MatchesAny choices a
/-- The texts that a row of parts stands for. -/
def MatchesAll : List Token → Bytes → Prop
  | [], a => a = []
  | t :: rest, a => ∃ b c, a = b ++ c ∧ t.Matches b ∧ MatchesAll rest c
/-- The texts of those rows of a choice that hold something. -/
def MatchesAny : List (List Token) → Bytes → Prop
  | [], _ => False
  | row :: rest, a => (isVoidBranch row = false ∧ MatchesAll row a) ∨ MatchesAny rest a
end

/-! ## Ends -/

lemma mem_tails : r ∈ tails s ↔ r <:+ s := by
  induction s with
  | nil => simp [tails]
  | cons b s ih => rw [tails, List.mem_cons, ih, List.suffix_cons_iff]

lemma mem_afterSlashes : r ∈ afterSlashes s ↔ ∃ directory, s = directory ++ slash :: r := by
  induction s with
  | nil => simp [afterSlashes]
  | cons b s ih =>
    have hcons : (∃ directory, b :: s = directory ++ slash :: r) ↔
        (b = slash ∧ s = r) ∨ ∃ directory, s = directory ++ slash :: r := by
      constructor
      · rintro ⟨- | ⟨d, directory⟩, h⟩
        · exact .inl (List.cons.inj h)
        · exact .inr ⟨directory, (List.cons.inj h).2⟩
      · rintro (⟨rfl, rfl⟩ | ⟨directory, rfl⟩)
        · exact ⟨[], rfl⟩
        · exact ⟨b :: directory, rfl⟩
    rw [afterSlashes, hcons, ← ih]
    split_ifs with hb
    · simp [hb, eq_comm]
    · simp [hb]

lemma mem_withinComponent : r ∈ withinComponent s ↔ ∃ name, s = name ++ r ∧ slash ∉ name := by
  induction s with
  | nil => simp [withinComponent, eq_comm]
  | cons b s ih =>
    have hcons : (∃ name, b :: s = name ++ r ∧ slash ∉ name) ↔
        b :: s = r ∨ b ≠ slash ∧ ∃ name, s = name ++ r ∧ slash ∉ name := by
      constructor
      · rintro ⟨- | ⟨d, name⟩, h, hname⟩
        · exact .inl h
        · obtain ⟨rfl, rfl⟩ := List.cons.inj h
          rw [List.mem_cons, not_or] at hname
          exact .inr ⟨Ne.symm hname.1, name, rfl, hname.2⟩
      · rintro (h | ⟨hb, name, rfl, hname⟩)
        · exact ⟨[], h, List.not_mem_nil⟩
        · exact ⟨b :: name, rfl, by simp [Ne.symm hb, hname]⟩
    rw [withinComponent, hcons, ← ih]
    split_ifs with hb
    · simp [hb, eq_comm]
    · simp [hb, eq_comm]

/-- Ends of one text are told apart by their lengths, so no end is lost. -/
lemma mem_distinct (h : ∀ s ∈ left, s <:+ w) : r ∈ distinct left ↔ r ∈ left := by
  induction left generalizing r with
  | nil => rfl
  | cons s left ih =>
    have hleft (m : Bytes) : m ∈ distinct left ↔ m ∈ left :=
      ih fun m hm => h m (List.mem_cons_of_mem _ hm)
    rw [distinct, List.mem_cons]
    split_ifs with hagain
    · obtain ⟨m, hm, hlength⟩ := List.any_eq_true.1 hagain
      have hend : m = s :=
        (List.suffix_of_suffix_length_le (h m (by simp [(hleft m).1 hm])) (h s (by simp))
          (by simpa using (beq_iff_eq.1 hlength).le)).eq_of_length (beq_iff_eq.1 hlength)
      rw [hleft, ← hend]
      exact ⟨.inr, fun hr => hr.elim (fun hr => hr ▸ (hleft m).1 hm) id⟩
    · rw [List.mem_cons, hleft]

lemma suffix_of_eq_append {a : Bytes} (h : s = a ++ r) : r <:+ s := ⟨a, h.symm⟩

/-! ## Matching -/

/-- One byte of a kind taken from the front of a text. -/
lemma byte_taken {P : UInt8 → Prop} {b : UInt8} :
    (∃ a, b :: s = a ++ r ∧ ∃ c, P c ∧ a = [c]) ↔ P b ∧ r = s := by
  constructor
  · rintro ⟨-, h, c, hc, rfl⟩
    obtain ⟨rfl, rfl⟩ := List.cons.inj h
    exact ⟨hc, rfl⟩
  · rintro ⟨hb, rfl⟩
    exact ⟨[b], rfl, b, hb, rfl⟩

mutual
/-- **What a part leaves of a text** stands behind one of the texts of the part. -/
theorem Token.mem_step : ∀ (t : Token) {s r : Bytes},
    r ∈ t.step s ↔ ∃ a, s = a ++ r ∧ t.Matches a
  | .literal c, s, r => by
    simp only [Token.step, Token.Matches, exists_eq_right]
    split_ifs with hfront
    · obtain ⟨later, rfl⟩ := List.isPrefixOf_iff_prefix.1 hfront
      simp [eq_comm]
    · simp only [List.not_mem_nil, false_iff]
      rintro rfl
      exact hfront (List.isPrefixOf_iff_prefix.2 ⟨r, rfl⟩)
  | .single, s, r => by
    cases s with
    | nil => simp [Token.step, Token.Matches]
    | cons b s =>
      simp only [Token.Matches, byte_taken]
      rw [Token.step]
      split_ifs with hb
      · simp [hb]
      · simp [hb]
  | .star, s, r => by
    rw [Token.step, mem_withinComponent]
    rfl
  | .deepStart, s, r => by
    -- what follows a slash, or all of the text
    have hends : ∀ m ∈ s :: afterSlashes s, m <:+ s := by
      intro m hm
      rcases List.mem_cons.1 hm with rfl | hm
      · exact List.suffix_rfl
      · obtain ⟨directory, hs⟩ := mem_afterSlashes.1 hm
        exact ⟨directory ++ [slash], by rw [hs, List.append_assoc]; rfl⟩
    rw [Token.step, mem_distinct hends, List.mem_cons, mem_afterSlashes]
    simp only [Token.Matches]
    constructor
    · rintro (rfl | ⟨directory, rfl⟩)
      · exact ⟨[], rfl, .inl rfl⟩
      · exact ⟨directory ++ [slash], by simp, .inr ⟨directory, rfl⟩⟩
    · rintro ⟨-, rfl, rfl | ⟨directory, rfl⟩⟩
      · exact .inl rfl
      · exact .inr ⟨directory, by simp⟩
  | .deepEnd, s, r => by
    simp only [Token.Matches]
    cases s with
    | nil => simp [Token.step]
    | cons b s =>
      rw [Token.step]
      split_ifs with hb
      · rw [mem_tails, hb]
        constructor
        · rintro ⟨below, rfl⟩
          exact ⟨slash :: below, rfl, below, rfl⟩
        · rintro ⟨-, h, below, rfl⟩
          exact ⟨below, (List.cons.inj h).2.symm⟩
      · simp only [List.not_mem_nil, false_iff]
        rintro ⟨-, h, below, rfl⟩
        exact hb (List.cons.inj h).1
  | .deepMiddle, s, r => by
    simp only [Token.Matches]
    cases s with
    | nil => simp [Token.step]
    | cons b s =>
      rw [Token.step]
      split_ifs with hb
      · rw [List.mem_cons, mem_afterSlashes, hb]
        constructor
        · rintro (rfl | ⟨directory, rfl⟩)
          · exact ⟨[slash], rfl, .inl rfl⟩
          · exact ⟨slash :: directory ++ [slash], by simp, .inr ⟨directory, rfl⟩⟩
        · rintro ⟨-, h, rfl | ⟨directory, rfl⟩⟩
          · exact .inl (List.cons.inj h).2.symm
          · exact .inr ⟨directory, by simpa using h⟩
      · simp only [List.not_mem_nil, false_iff]
        rintro ⟨-, h, rfl | ⟨directory, rfl⟩⟩
        · exact hb (List.cons.inj h).1
        · exact hb (List.cons.inj h).1
  | .oneOf negated ranges, s, r => by
    cases s with
    | nil => simp [Token.step, Token.Matches]
    | cons b s =>
      simp only [Token.Matches, byte_taken]
      rw [Token.step]
      split_ifs with hb
      · simp [hb]
      · simp [hb]
  | .branches choices, s, r => by
    -- branches that hold nothing stand for the empty text, whatever their number
    simp only [Token.step, Token.Matches]
    split_ifs with hvoid
    · simp [eq_comm]
    · rw [mem_distinct (w := s), mem_stepAny choices]
      intro m hm
      obtain ⟨a, ha, -⟩ := (mem_stepAny choices).1 hm
      exact suffix_of_eq_append ha
theorem mem_stepAll : ∀ (row : List Token) {left : List Bytes} {w r : Bytes},
    (∀ s ∈ left, s <:+ w) →
      (r ∈ stepAll row left ↔ ∃ s ∈ left, ∃ a, s = a ++ r ∧ MatchesAll row a)
  | [], left, w, r, _ => by simp [stepAll, MatchesAll]
  | t :: rest, left, w, r, h => by
    have hends : ∀ m ∈ left.flatMap t.step, m <:+ w := by
      intro m hm
      obtain ⟨s, hs, hm⟩ := List.mem_flatMap.1 hm
      obtain ⟨a, ha, -⟩ := (Token.mem_step t).1 hm
      exact (suffix_of_eq_append ha).trans (h s hs)
    rw [stepAll, mem_stepAll rest (w := w) fun m hm => hends m ((mem_distinct hends).1 hm)]
    simp only [mem_distinct hends, List.mem_flatMap, Token.mem_step t, MatchesAll]
    constructor
    · rintro ⟨m, ⟨s, hs, a, rfl, ha⟩, b, rfl, hb⟩
      exact ⟨_, hs, a ++ b, by simp, a, b, rfl, ha, hb⟩
    · rintro ⟨s, hs, -, rfl, a, b, rfl, ha, hb⟩
      exact ⟨b ++ r, ⟨_, hs, a, by simp, ha⟩, b, rfl, hb⟩
theorem mem_stepAny : ∀ (choices : List (List Token)) {s r : Bytes},
    r ∈ stepAny choices s ↔ ∃ a, s = a ++ r ∧ MatchesAny choices a
  | [], s, r => by simp [stepAny, MatchesAny]
  | row :: rest, s, r => by
    rw [stepAny, List.mem_append, mem_stepAny rest]
    simp only [MatchesAny, and_or_left, exists_or]
    refine or_congr_left ?_
    split_ifs with hvoid
    · simp [hvoid]
    · have hholds : isVoidBranch row = false := Bool.eq_false_of_not_eq_true hvoid
      rw [mem_stepAll row (w := s) (by simp)]
      simp only [List.mem_singleton, exists_eq_left, hholds, true_and]
end

/-- **A row of parts accepts** exactly its texts; `**` on its own accepts every text. -/
theorem accepts_iff {row : List Token} :
    accepts row s = true ↔ row = [.deepStart] ∨ MatchesAll row s := by
  by_cases hrow : row = [.deepStart]
  · simp [hrow, accepts]
  · have hempty : (stepAll row [s]).any (·.isEmpty) = true ↔ [] ∈ stepAll row [s] := by
      simp [List.any_eq_true, List.isEmpty_iff]
    rw [accepts, hempty, mem_stepAll row (w := s) (by simp)]
    · simp [hrow]
    · exact hrow

end ServerLink.Glob
