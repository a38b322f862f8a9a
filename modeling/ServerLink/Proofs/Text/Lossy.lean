import Mathlib
import ServerLink.Proofs.Text.Blank
import ServerLink.Proofs.Text.Utf8

/-!
# Cutting bytes and cutting text

Bytes that are not UTF-8 are replaced when they are decoded, and what is replaced depends on what
stands around it.  A byte of ASCII ends whatever has begun, so bytes may be cut at it first and the
pieces decoded each by itself.

* `turn` — what one byte adds to the text, and what is owed after it; `lossyFrom_cons`.
* `Owed.Sound` — what is owed is no byte of ASCII and comes to no character of ASCII.
* **`decodeLossy_append_cons`** — decoding on both sides of a byte of ASCII.
* `mem_decodeLossy_iff` — nothing else is decoded to a character of ASCII, NUL apart.
* **`splitOn_decodeLossy`** — hence the pieces of a text are those of its bytes.
* **`exists_cut`** — and what stands on either side of such a byte in a text is text.
-/

namespace ServerLink.Utf8

/-! ## What is owed -/

/-- The least number that a character can have that has begun. -/
def Owed.least (o : Owed) : Nat := (o.bits * 0x40 + (o.low.toNat - 0x80)) * 0x40 ^ (o.left - 1)

/-- What is owed is no byte of ASCII, and comes to no character of ASCII. -/
structure Owed.Sound (o : Owed) : Prop where
  low : 0x80 ≤ o.low.toNat
  least : 0x80 ≤ o.least

lemma Owed.Sound.of_first {b : UInt8} {c : Option Char} {o : Owed}
    (h : first b = some (c, some o)) :
    o.Sound := by
  unfold first at h
  generalize b.toNat = n at h
  dsimp only at h
  split at h
  · simp at h
  split at h
  · simp at h
  split at h
  · simp only [Option.some.injEq, Prod.mk.injEq] at h
    obtain ⟨-, rfl⟩ := h
    exact ⟨by simp, by simp [Owed.least]; omega⟩
  split at h
  · simp only [Option.some.injEq, Prod.mk.injEq] at h
    obtain ⟨-, rfl⟩ := h
    constructor
    · dsimp only
      split <;> simp
    · simp only [Owed.least]
      split <;> simp <;> omega
  split at h
  · simp only [Option.some.injEq, Prod.mk.injEq] at h
    obtain ⟨-, rfl⟩ := h
    constructor
    · dsimp only
      split <;> simp
    · simp only [Owed.least]
      split <;> simp <;> omega
  · simp at h

/-- The byte stands for a character of ASCII other than NUL, which is what numbers come to that are
no characters. -/
structure Mark (m : UInt8) : Prop where
  pos : 0 < m.toNat
  lt : m.toNat < 0x80

/-- The character of a byte of ASCII. -/
def char (m : UInt8) : Char := Char.ofNat m.toNat

lemma Mark.toNat_char {m : UInt8} (hm : Mark m) : (char m).toNat = m.toNat := by
  rw [char, Char.toNat_ofNat, if_pos]
  have := hm.lt
  exact .inl (by omega)

lemma Mark.ofNat_ne {m : UInt8} (hm : Mark m) {n : Nat} (h : n ≠ m.toNat) :
    Char.ofNat n ≠ char m := by
  intro hc
  have hn := congrArg Char.toNat hc
  rw [hm.toNat_char, Char.toNat_ofNat] at hn
  split at hn
  · exact h hn
  · exact absurd hm.pos (by omega)

lemma Mark.ne_replacement {m : UInt8} (hm : Mark m) : char m ≠ replacement := by
  intro hc
  have hn := congrArg Char.toNat hc
  rw [hm.toNat_char] at hn
  exact absurd hm.lt (by rw [hn]; decide)

lemma Mark.first_ne {m b : UInt8} {c : Option Char} {s : Option Owed} (hm : Mark m) (hb : b ≠ m)
    (h : first b = some (c, s)) : c ≠ some (char m) := by
  rw [first] at h
  split at h
  · simp only [Option.some.injEq, Prod.mk.injEq] at h
    obtain ⟨rfl, -⟩ := h
    exact fun hc => hm.ofNat_ne (fun hn => hb (UInt8.toNat_inj.1 hn)) (Option.some.inj hc)
  · rintro rfl
    split_ifs at h <;> simp at h

lemma Owed.Sound.accept {o : Owed} {b : UInt8} {c : Option Char} {s : Option Owed} (h : o.Sound)
    (ha : accept (some o) b = some (c, s)) :
    (∀ m, Mark m → c ≠ some (char m)) ∧ ∀ o', s = some o' → o'.Sound := by
  obtain ⟨hlow, hleast⟩ := h
  rw [Utf8.accept, Option.ite_none_right_eq_some, Bool.and_eq_true, decide_eq_true_eq,
    UInt8.le_iff_toNat_le] at ha
  obtain ⟨⟨hb, -⟩, ha⟩ := ha
  dsimp only at ha
  rw [Owed.least] at hleast
  split at ha
  · rename_i hlast
    rw [Nat.sub_eq_zero_of_le hlast, Nat.pow_zero, Nat.mul_one] at hleast
    simp only [Option.some.injEq, Prod.mk.injEq] at ha
    obtain ⟨rfl, rfl⟩ := ha
    refine ⟨fun m hm hc => hm.ofNat_ne ?_ (Option.some.inj hc), by simp⟩
    have := hm.lt
    omega
  · rename_i hmore
    simp only [Option.some.injEq, Prod.mk.injEq] at ha
    obtain ⟨rfl, rfl⟩ := ha
    refine ⟨by simp, ?_⟩
    rintro o' ho
    rw [Option.some.injEq] at ho
    subst ho
    refine ⟨by simp, hleast.trans ?_⟩
    have hpow : 0x40 ^ (o.left - 1) = 0x40 * 0x40 ^ (o.left - 1 - 1) := by
      rw [← Nat.pow_succ']
      congr 1
      omega
    rw [Owed.least, hpow, ← Nat.mul_assoc]
    refine Nat.mul_le_mul_right _ ?_
    simp
    omega

/-! ## One byte -/

/-- A byte of ASCII is accepted where a character begins, and nowhere else. -/
lemma accept_ascii {s : Option Owed} {b : UInt8} (hs : ∀ o, s = some o → o.Sound)
    (hb : b.toNat < 0x80) :
    accept none b = some (some (char b), none) ∧ (s ≠ none → accept s b = none) := by
  refine ⟨by rw [accept, first, if_pos hb, char], fun hsome => ?_⟩
  obtain ⟨o, rfl⟩ := Option.ne_none_iff_exists'.1 hsome
  have hlow := (hs o rfl).low
  rw [accept, if_neg]
  rw [Bool.and_eq_true, decide_eq_true_eq, UInt8.le_iff_toNat_le]
  omega

/-- The characters that a byte adds, the last one first, and what is owed after it. -/
def turn (s : Option Owed) (b : UInt8) : List Char × Option Owed :=
  match accept s b with
  | some (c, s') => (push c [], s')
  | none =>
    match s with
    | none => ([replacement], none)
    | some _ =>
      match first b with
      | some (c, s') => (push c [replacement], s')
      | none => ([replacement, replacement], none)

lemma push_eq (c : Option Char) (done : List Char) : push c done = c.toList ++ done := by
  cases c <;> rfl

lemma lossyFrom_cons (done : List Char) (s : Option Owed) (b : UInt8) (rest : Bytes) :
    lossyFrom done s (b :: rest) = lossyFrom ((turn s b).1 ++ done) (turn s b).2 rest := by
  have hcons : lossyFrom done s (b :: rest) = match accept s b with
      | some (c, s') => lossyFrom (push c done) s' rest
      | none => match s with
        | none => lossyFrom (replacement :: done) none rest
        | some _ => match first b with
          | some (c, s') => lossyFrom (push c (replacement :: done)) s' rest
          | none => lossyFrom (replacement :: replacement :: done) none rest := by
    cases s <;> rfl
  rw [hcons, turn.eq_def]
  rcases accept s b with _ | ⟨c, s'⟩
  · cases s with
    | none => rfl
    | some o =>
      rcases first b with _ | ⟨c, s'⟩
      · rfl
      · simp [push_eq]
  · simp [push_eq]

/-- What was decoded before stands in front. -/
lemma lossyFrom_done (done : List Char) (s : Option Owed) (bs : Bytes) :
    lossyFrom done s bs = done.reverse ++ lossyFrom [] s bs := by
  induction bs generalizing done s with
  | nil => cases s <;> simp [lossyFrom]
  | cons b bs ih => rw [lossyFrom_cons, lossyFrom_cons, ih, ih ((turn s b).1 ++ [])]; simp

section Turn

variable {s : Option Owed} {b : UInt8} (hs : ∀ o, s = some o → o.Sound)

include hs

lemma sound_turn : ∀ o, (turn s b).2 = some o → o.Sound := by
  rw [turn.eq_def]
  cases s with
  | none =>
    rcases hb : accept none b with _ | ⟨c, s'⟩
    · simp
    · rintro o rfl
      exact .of_first hb
  | some o =>
    rcases hb : accept (some o) b with _ | ⟨c, s'⟩
    · rcases hf : first b with _ | ⟨c, s'⟩
      · simp
      · rintro o rfl
        exact .of_first hf
    · exact ((hs o rfl).accept hb).2

lemma notMem_turn {m : UInt8} (hm : Mark m) (hb : b ≠ m) : char m ∉ (turn s b).1 := by
  have hpush : ∀ {c : Option Char} {done : List Char}, c ≠ some (char m) → char m ∉ done →
      char m ∉ push c done := by
    intro c done hc hdone
    rw [push_eq, List.mem_append, Option.mem_toList]
    exact not_or.2 ⟨hc, hdone⟩
  rw [turn.eq_def]
  cases s with
  | none =>
    rcases ha : accept none b with _ | ⟨c, s'⟩
    · simp [hm.ne_replacement]
    · exact hpush (hm.first_ne hb ha) List.not_mem_nil
  | some o =>
    rcases ha : accept (some o) b with _ | ⟨c, s'⟩
    · rcases hf : first b with _ | ⟨c, s'⟩
      · simp [hm.ne_replacement]
      · exact hpush (hm.first_ne hb hf) (by simp [hm.ne_replacement])
    · exact hpush (((hs o rfl).accept ha).1 m hm) List.not_mem_nil

lemma turn_ascii (hb : b.toNat < 0x80) (done : List Char) :
    (turn s b).1 ++ done = char b :: (lossyFrom done s []).reverse
      ∧ (turn s b).2 = none := by
  obtain ⟨hbegins, hends⟩ := accept_ascii hs hb
  cases s with
  | none => simp [turn, hbegins, push, lossyFrom]
  | some o =>
    have hfirst : first b = some (some (char b), none) := hbegins
    simp [turn, hends (by simp), hfirst, push, lossyFrom]

lemma lossyFrom_append_cons (hb : b.toNat < 0x80) (done : List Char) (as rest : Bytes) :
    lossyFrom done s (as ++ b :: rest)
      = lossyFrom done s as ++ char b :: lossyFrom [] none rest := by
  induction as generalizing done s with
  | nil =>
    obtain ⟨hchars, hstate⟩ := turn_ascii hs hb done
    rw [List.nil_append, lossyFrom_cons, hchars, hstate, lossyFrom_done]
    simp
  | cons a as ih => rw [List.cons_append, lossyFrom_cons, lossyFrom_cons, ih (sound_turn hs)]

lemma notMem_lossyFrom {m : UInt8} (hm : Mark m) {bs : Bytes} (hbs : m ∉ bs) :
    char m ∉ lossyFrom [] s bs := by
  induction bs generalizing s with
  | nil => cases s <;> simp [lossyFrom, hm.ne_replacement]
  | cons b bs ih =>
    rw [List.mem_cons, not_or] at hbs
    rw [lossyFrom_cons, lossyFrom_done, List.mem_append, List.append_nil, List.mem_reverse, not_or]
    exact ⟨notMem_turn hs hm (Ne.symm hbs.1), ih (sound_turn hs) hbs.2⟩

end Turn

/-! ## Cutting -/

/-- **A byte of ASCII is a character wherever it stands**, and what stands on either side of it is
decoded by itself. -/
theorem decodeLossy_append_cons {b : UInt8} (hb : b.toNat < 0x80) (as rest : Bytes) :
    decodeLossy (as ++ b :: rest) = decodeLossy as ++ char b :: decodeLossy rest :=
  lossyFrom_append_cons (by simp) hb [] as rest

lemma mem_decodeLossy_iff {m : UInt8} (hm : Mark m) {bs : Bytes} :
    char m ∈ decodeLossy bs ↔ m ∈ bs := by
  constructor
  · intro h
    by_contra hbs
    exact notMem_lossyFrom (by simp) hm hbs h
  · intro h
    obtain ⟨as, rest, rfl⟩ := List.append_of_mem h
    rw [decodeLossy_append_cons hm.lt]
    simp

/-- Bytes of ASCII behind are decoded one by one. -/
lemma decodeLossy_append_pad {pad : Bytes} (hpad : ∀ b ∈ pad, b.toNat < 0x80) (bs : Bytes) :
    decodeLossy (bs ++ pad) = decodeLossy bs ++ pad.map char := by
  induction pad generalizing bs with
  | nil => simp
  | cons b pad ih =>
    rw [List.forall_mem_cons] at hpad
    have hlater : decodeLossy pad = pad.map char := ih hpad.2 []
    rw [decodeLossy_append_cons hpad.1, hlater, List.map_cons]

/-- Bytes of ASCII in front are decoded one by one. -/
lemma decodeLossy_pad_append {pad : Bytes} (hpad : ∀ b ∈ pad, b.toNat < 0x80) (bs : Bytes) :
    decodeLossy (pad ++ bs) = pad.map char ++ decodeLossy bs := by
  induction pad with
  | nil => rfl
  | cons b pad ih =>
    rw [List.forall_mem_cons] at hpad
    have hcons : decodeLossy (b :: (pad ++ bs)) = char b :: decodeLossy (pad ++ bs) :=
      decodeLossy_append_cons hpad.1 [] (pad ++ bs)
    rw [List.cons_append, hcons, ih hpad.2, List.map_cons, List.cons_append]

/-- **The pieces of a text are those of its bytes.** -/
theorem splitOn_decodeLossy {m : UInt8} (hm : Mark m) (bs : Bytes) :
    Text.splitOn (char m) (decodeLossy bs) = (bs.splitOn m).map decodeLossy := by
  -- on the number of bytes: those behind the first mark are fewer
  induction hlength : bs.length using Nat.strong_induction_on generalizing bs with
  | _ n ih =>
    by_cases hbs : m ∈ bs
    · obtain ⟨piece, rest, rfl, hpiece⟩ := List.eq_append_cons_of_mem hbs
      have hlater := ih rest.length (by simp at hlength; omega) rest rfl
      rw [List.splitOn_append_cons_self_of_not_mem hpiece, List.map_cons, ← hlater,
        decodeLossy_append_cons hm.lt]
      exact Text.splitOn_append_cons (mt (mem_decodeLossy_iff hm).1 hpiece) _
    · rw [List.splitOn_eq_singleton hbs, List.map_singleton]
      exact Text.splitOn_of_notMem (mt (mem_decodeLossy_iff hm).1 hbs)

/-! ## Cutting the bytes of a text -/

lemma encodeChar_char {m : UInt8} (hm : Mark m) : encodeChar (char m) = [m] := by
  rw [encodeChar_ascii (by rw [hm.toNat_char]; exact hm.lt), hm.toNat_char]
  simp

lemma mem_encode_iff {m : UInt8} (hm : Mark m) {cs : List Char} : m ∈ encode cs ↔ char m ∈ cs := by
  rw [← mem_decodeLossy_iff hm, decodeLossy_encode]

lemma mem_encodeChar_iff {m : UInt8} (hm : Mark m) {c : Char} : m ∈ encodeChar c ↔ c = char m := by
  have hone : encode [c] = encodeChar c := by rw [encode_cons, encode_nil, List.append_nil]
  rw [← hone, mem_encode_iff hm, List.mem_singleton, eq_comm]

/-- **The bytes of a text are cut at a byte of ASCII** where the text is cut at its character. -/
lemma exists_cut {m : UInt8} (hm : Mark m) {cs : List Char} {as rest : Bytes}
    (h : encode cs = as ++ m :: rest) :
    ∃ front back, cs = front ++ char m :: back ∧ encode front = as ∧ encode back = rest := by
  induction cs generalizing as with
  | nil => simp at h
  | cons c cs ih =>
    by_cases hc : c = char m
    · subst hc
      rw [encode_cons, encodeChar_char hm, List.singleton_append] at h
      cases as with
      | nil =>
        rw [List.nil_append, List.cons.injEq] at h
        exact ⟨[], cs, rfl, rfl, h.2⟩
      | cons a as =>
        rw [List.cons_append, List.cons.injEq] at h
        obtain ⟨front, back, rfl, hfront, hback⟩ := ih h.2
        refine ⟨char m :: front, back, rfl, ?_, hback⟩
        rw [encode_cons, encodeChar_char hm, hfront, h.1, List.singleton_append]
    · -- the byte is not among those of the first character
      have hnot : m ∉ encodeChar c := mt (mem_encodeChar_iff hm).1 hc
      rw [encode_cons, List.append_eq_append_iff] at h
      rcases h with ⟨as', rfl, hrest⟩ | ⟨later, hcut, hrest⟩
      · obtain ⟨front, back, rfl, hfront, hback⟩ := ih hrest
        exact ⟨c :: front, back, rfl, by rw [encode_cons, hfront], hback⟩
      · cases later with
        | nil =>
          have hlater : encode cs = [] ++ m :: rest := hrest.symm
          obtain ⟨front, back, rfl, hfront, hback⟩ := ih hlater
          refine ⟨c :: front, back, rfl, ?_, hback⟩
          rw [encode_cons, hfront, List.append_nil, hcut, List.append_nil]
        | cons b later =>
          rw [List.cons_append, List.cons.injEq] at hrest
          exact absurd (by rw [hcut, hrest.1]; simp) hnot

end ServerLink.Utf8
