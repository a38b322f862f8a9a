import Mathlib
import ServerLink.Json.Reader
import ServerLink.Number.Shortest
import ServerLink.Proofs.Text.Decimal
import ServerLink.Proofs.Text.Utf8

/-!
# Numbers read inside a longer text

The reader of numbers has no end mark to look for: it stops at the first byte that does not continue
the number.  So what it makes of a text that it read alone, it makes of it in any longer text, as
long as what follows **stops** a number.

* `Stops`, `Cursor.within` — what may follow, and a cursor seen in the longer text.
* `Carries` — an answer that survives the longer text.  One lemma for each part of the reader, from
  the digits up to **`carries_readNumber`**.
* **`readNumber_nat`**, **`readNumber_neg`** — the digits of a whole number read as that number.
* `continuesNumber_toText` — the text of any other number has no byte that would stop it.
-/

namespace ServerLink.Json

/-! ## What follows a number -/

/-- Whether a byte may continue a number. -/
def continuesNumber (b : UInt8) : Bool :=
  isDigit b || opensExponent b || b == 0x2E || b == 0x2B || b == 0x2D

/-- Bytes that do not continue a number before them. -/
def Stops (rest : Bytes) : Prop := ∀ b ∈ rest.head?, continuesNumber b = false

lemma stops_nil : Stops [] := by
  intro b hb
  simp at hb

lemma stops_cons {b : UInt8} {rest : Bytes} (h : continuesNumber b = false) :
    Stops (b :: rest) := by
  rintro c ⟨⟩
  exact h

lemma Stops.isDigit {b : UInt8} {rest : Bytes} (h : Stops (b :: rest)) : isDigit b = false := by
  have hb := h b rfl
  simp only [continuesNumber, Bool.or_eq_false_iff] at hb
  exact hb.1.1.1.1

/-! ## A cursor in a longer text -/

namespace Cursor

/-- The cursor in a longer text: so many bytes in front, and others behind. -/
def within (c : Cursor) (front : Nat) (behind : Bytes) : Cursor :=
  ⟨c.rest ++ behind, front + c.index⟩

variable {c : Cursor} {front : Nat} {behind : Bytes}

@[simp] lemma rest_within : (c.within front behind).rest = c.rest ++ behind := rfl

lemma skip_within {n : Nat} (h : n ≤ c.rest.length) :
    (c.within front behind).skip n = (c.skip n).within front behind := by
  simp [within, skip, List.drop_append_of_le_length h, Nat.add_assoc]

/-- A test that only bytes of numbers pass answers the same in the longer text. -/
lemma test_peek_within (test : UInt8 → Bool) (htest : ∀ b, test b = true → continuesNumber b = true)
    (h : Stops behind) : test (c.within front behind).peek = test c.peek := by
  have hzero : test 0 = false := by
    by_contra hne
    exact absurd (htest 0 (by simpa using hne)) (by decide)
  obtain ⟨rest, index⟩ := c
  cases rest with
  | cons b rest => rfl
  | nil =>
    cases behind with
    | nil => rfl
    | cons b behind =>
      have hb : test b = false := by
        by_contra hne
        exact absurd (htest b (by simpa using hne)) (by simp [h b rfl])
      simp [within, peek, hb, hzero]

lemma beq_peek_within {b : UInt8} (hb : continuesNumber b = true) (h : Stops behind) :
    ((c.within front behind).peek == b) = (c.peek == b) := by
  refine test_peek_within (· == b) (fun d hd => ?_) h
  rwa [beq_iff_eq.1 hd]

lemma isDigit_peek_within (h : Stops behind) :
    isDigit (c.within front behind).peek = isDigit c.peek := by
  refine test_peek_within _ (fun d hd => ?_) h
  simp [continuesNumber, hd]

lemma opensExponent_peek_within (h : Stops behind) :
    opensExponent (c.within front behind).peek = opensExponent c.peek := by
  refine test_peek_within _ (fun d hd => ?_) h
  simp [continuesNumber, hd]

lemma skipDigits_within (h : Stops behind) :
    (c.within front behind).skipDigits = c.skipDigits.within front behind := by
  have hlength : ((c.rest ++ behind).takeWhile isDigit).length
      = (c.rest.takeWhile isDigit).length := by
    rw [List.takeWhile_append]
    split
    next hall =>
      have hbehind : behind.takeWhile isDigit = [] := by
        cases behind with
        | nil => rfl
        | cons b behind => rw [List.takeWhile_cons_of_neg (by simp [h.isDigit])]
      rw [hbehind, List.append_nil, hall]
    next => rfl
  change (c.within front behind).skip ((c.rest ++ behind).takeWhile isDigit).length
    = (c.skip (c.rest.takeWhile isDigit).length).within front behind
  rw [hlength]
  exact skip_within (List.takeWhile_sublist _).length_le

lemma length_pos_of_peek (h : c.peek ≠ 0) : 1 ≤ c.rest.length := by
  cases hrest : c.rest with
  | nil => simp [peek, hrest] at h
  | cons b rest => simp

lemma suffix_skip (c : Cursor) (n : Nat) : (c.skip n).rest <:+ c.rest := List.drop_suffix n c.rest

end Cursor

/-! ## Digits -/

variable {behind : Bytes}

lemma moreDigits_append (h : Stops behind) (bytes : Bytes) (s n : Nat) :
    moreDigits s (bytes ++ behind) n = moreDigits s bytes n := by
  induction bytes generalizing s n with
  | nil =>
    cases behind with
    | nil => rfl
    | cons b behind => simp [moreDigits, h.isDigit]
  | cons b bytes ih => simp only [List.cons_append, moreDigits, ih]

lemma moreDigits_le (bytes : Bytes) (s n : Nat) :
    (moreDigits s bytes n).2.1 ≤ n + bytes.length := by
  induction bytes generalizing s n with
  | nil => simp [moreDigits]
  | cons b bytes ih =>
    have hrest := ih (s * 10 + digitValue b) (n + 1)
    simp only [moreDigits, List.length_cons]
    split
    · split
      · simp
      · omega
    · simp

lemma exponentDigits_append (h : Stops behind) (bytes : Bytes) (e n : Nat) :
    exponentDigits e (bytes ++ behind) n = exponentDigits e bytes n := by
  induction bytes generalizing e n with
  | nil =>
    cases behind with
    | nil => rfl
    | cons b behind => simp [exponentDigits, h.isDigit]
  | cons b bytes ih => simp only [List.cons_append, exponentDigits, ih]

lemma exponentDigits_le {bytes : Bytes} {e n e' n' : Nat}
    (h : exponentDigits e bytes n = some (e', n')) : n' ≤ n + bytes.length := by
  induction bytes generalizing e n with
  | nil =>
    obtain ⟨-, rfl⟩ : e = e' ∧ n = n' := by simpa [exponentDigits] using h
    simp
  | cons b bytes ih =>
    simp only [exponentDigits] at h
    split at h
    · split at h
      · simp at h
      · have hrest := ih h
        rw [List.length_cons]
        omega
    · obtain ⟨-, rfl⟩ : e = e' ∧ n = n' := by simpa using h
      simp

/-! ## The parts of the reader -/

/-- A whole number or any other one. -/
inductive IsNumber : Json → Prop where
  | int (n : Int) : IsNumber (.int n)
  | real (x : Binary) : IsNumber (.real x)

/-- An answer given in a text alone is given in the longer text as well: the same number, and the
cursor seen in the longer text. -/
def Carries (front : Nat) (behind : Bytes) (c : Cursor) (alone longer : Read Json) : Prop :=
  ∀ v c', alone = .ok (v, c') →
    IsNumber v ∧ c'.rest <:+ c.rest ∧ longer = .ok (v, c'.within front behind)

variable {front : Nat} {c d : Cursor} {alone longer : Read Json}

lemma carries_error {f : Fault} : Carries front behind c (.error f) longer := by
  rintro v c' ⟨⟩

lemma carries_ok {v : Json} (hv : IsNumber v) (hd : d.rest <:+ c.rest) :
    Carries front behind c (.ok (v, d)) (.ok (v, d.within front behind)) := by
  rintro _ _ ⟨⟩
  exact ⟨hv, hd, rfl⟩

lemma Carries.further (h : Carries front behind d alone longer) (hd : d.rest <:+ c.rest) :
    Carries front behind c alone longer := by
  intro v c' hc
  obtain ⟨hv, hleft, hlonger⟩ := h v c' hc
  exact ⟨hv, hleft.trans hd, hlonger⟩

lemma carries_realFrom (positive : Bool) (s : Nat) (e : Int) : Carries front behind c
    (realFrom positive s e c) (realFrom positive s e (c.within front behind)) := by
  simp only [realFrom]
  split
  · exact carries_error
  · split
    · exact carries_ok (.real _) List.suffix_rfl
    · exact carries_error

lemma carries_readPower (h : Stops behind) (positive : Bool) (s : Nat) (e : Int) (raise : Bool) :
    Carries front behind c (readPower positive s e raise c)
      (readPower positive s e raise (c.within front behind)) := by
  cases hrest : c.rest with
  | nil => simp only [readPower, hrest]; exact carries_error
  | cons b rest =>
    simp only [readPower, hrest, Cursor.rest_within, List.cons_append, exponentDigits_append h]
    split
    · split
      next power n hpower =>
        have hn : 1 + n ≤ c.rest.length := by
          have := exponentDigits_le hpower
          rw [hrest, List.length_cons]
          omega
        rw [Cursor.skip_within hn]
        exact (carries_realFrom _ _ _).further (Cursor.suffix_skip _ _)
      next =>
        split
        · exact carries_error
        · rw [Cursor.skipDigits_within h]
          exact carries_ok (.real _) (Cursor.suffix_skip _ _)
    · exact carries_error

lemma carries_readExponent (h : Stops behind) (hopen : opensExponent c.peek = true)
    (positive : Bool) (s : Nat) (e : Int) : Carries front behind c
      (readExponent positive s e c) (readExponent positive s e (c.within front behind)) := by
  have hone : 1 ≤ c.rest.length := Cursor.length_pos_of_peek fun hz => by
    simp [hz, opensExponent] at hopen
  simp only [readExponent, Cursor.skip_within hone]
  simp only [bne, Cursor.beq_peek_within (b := 0x2D) (by decide) h,
    Cursor.beq_peek_within (b := 0x2B) (by decide) h]
  split
  next hsign =>
    have htwo : 1 ≤ (c.skip 1).rest.length :=
      Cursor.length_pos_of_peek fun hz => by simp [hz] at hsign
    rw [Cursor.skip_within htwo]
    exact (carries_readPower h _ _ _ _).further
      ((Cursor.suffix_skip _ 1).trans (Cursor.suffix_skip c 1))
  next => exact (carries_readPower h _ _ _ _).further (Cursor.suffix_skip c 1)

lemma carries_readFraction (h : Stops behind) (hopen : c.peek = 0x2E)
    (positive : Bool) (s : Nat) (e : Int) : Carries front behind c
      (readFraction positive s e c) (readFraction positive s e (c.within front behind)) := by
  have hone : 1 ≤ c.rest.length := Cursor.length_pos_of_peek fun hz => by simp [hz] at hopen
  have hn : (moreDigits s (c.skip 1).rest 0).2.1 ≤ (c.skip 1).rest.length := by
    have := moreDigits_le (c.skip 1).rest s 0
    omega
  have hafter := (Cursor.suffix_skip (c.skip 1) (moreDigits s (c.skip 1).rest 0).2.1).trans
    (Cursor.suffix_skip c 1)
  simp only [readFraction, Cursor.skip_within hone, Cursor.rest_within, moreDigits_append h,
    Cursor.skip_within hn]
  split
  · simp only [Cursor.skipDigits_within h, Cursor.opensExponent_peek_within h]
    split
    next hexp =>
      exact (carries_readExponent h hexp _ _ _).further ((Cursor.suffix_skip _ _).trans hafter)
    next => exact (carries_realFrom _ _ _).further ((Cursor.suffix_skip _ _).trans hafter)
  · split
    · exact carries_error
    · simp only [Cursor.opensExponent_peek_within h]
      split
      next hexp => exact (carries_readExponent h hexp _ _ _).further hafter
      next => exact (carries_realFrom _ _ _).further hafter

lemma carries_readLong (h : Stops behind) (positive : Bool) (s : Nat) : Carries front behind c
    (readLong positive s c) (readLong positive s (c.within front behind)) := by
  have hafter : c.skipDigits.rest <:+ c.rest := Cursor.suffix_skip c _
  have hcount : (c.skipDigits.within front behind).index - (c.within front behind).index
      = c.skipDigits.index - c.index := Nat.add_sub_add_left ..
  simp only [readLong, Cursor.skipDigits_within h, hcount, Cursor.opensExponent_peek_within h,
    Cursor.beq_peek_within (b := 0x2E) (by decide) h]
  split
  next hpoint => exact (carries_readFraction h (by simpa using hpoint) _ _ _).further hafter
  next =>
    split
    next hexp => exact (carries_readExponent h hexp _ _ _).further hafter
    next => exact (carries_realFrom _ _ _).further hafter

lemma carries_afterDigits (h : Stops behind) (positive : Bool) (s : Nat) : Carries front behind c
    (afterDigits positive s c) (afterDigits positive s (c.within front behind)) := by
  simp only [afterDigits, Cursor.opensExponent_peek_within h,
    Cursor.beq_peek_within (b := 0x2E) (by decide) h]
  split
  next hpoint => exact carries_readFraction h (by simpa using hpoint) _ _ _
  next =>
    split
    next hexp => exact carries_readExponent h hexp _ _ _
    next =>
      split
      · exact carries_ok (.int _) List.suffix_rfl
      · split
        · exact carries_realFrom _ _ _
        · exact carries_ok (.int _) List.suffix_rfl

/-- **A number read alone is read in any longer text** in which what follows stops it. -/
theorem carries_readNumber (h : Stops behind) (positive : Bool) : Carries front behind c
    (readNumber positive c) (readNumber positive (c.within front behind)) := by
  cases hrest : c.rest with
  | nil => simp only [readNumber, hrest]; exact carries_error
  | cons b rest =>
    have hone : 1 ≤ c.rest.length := by simp [hrest]
    have hn : (moreDigits (digitValue b) rest 0).2.1 ≤ (c.skip 1).rest.length := by
      have hskip : (c.skip 1).rest = rest := by simp [Cursor.skip, hrest]
      have := moreDigits_le rest (digitValue b) 0
      rw [hskip]
      omega
    have hafter := (Cursor.suffix_skip (c.skip 1) (moreDigits (digitValue b) rest 0).2.1).trans
      (Cursor.suffix_skip c 1)
    simp only [readNumber, hrest, Cursor.rest_within, List.cons_append, Cursor.skip_within hone,
      Cursor.isDigit_peek_within h, moreDigits_append h, Cursor.skip_within hn]
    split
    · split
      · exact carries_error
      · exact (carries_afterDigits h _ _).further (Cursor.suffix_skip c 1)
    · split
      · split
        · exact (carries_readLong h _ _).further hafter
        · exact (carries_afterDigits h _ _).further hafter
      · exact carries_error

/-! ## Whole numbers -/

lemma bounds_of_isDigit {ch : Char} (h : ch.isDigit = true) : 48 ≤ ch.toNat ∧ ch.toNat ≤ 57 := by
  rw [Char.isDigit, Bool.and_eq_true, decide_eq_true_eq, decide_eq_true_eq] at h
  exact h

lemma isDigit_toUInt8 {ch : Char} (h : ch.isDigit = true) :
    isDigit ch.toNat.toUInt8 = true ∧ digitValue ch.toNat.toUInt8 = ch.toNat - 48 := by
  obtain ⟨hlow, hhigh⟩ := bounds_of_isDigit h
  have hbyte : ch.toNat.toUInt8.toNat = ch.toNat := Utf8.toNat_toUInt8 (by omega)
  constructor
  · simp [isDigit, UInt8.le_iff_toNat_le, hbyte, hlow, hhigh]
  · rw [digitValue, hbyte]

/-- A digit worth nothing is the zero. -/
lemma eq_zero_of_isDigit {ch : Char} (h : ch.isDigit = true) (hworth : ch.toNat - 48 = 0) :
    ch = '0' := by
  have hlow := (bounds_of_isDigit h).1
  rw [← Char.ofNat_toNat ch, show ch.toNat = 48 by omega]

lemma encode_cons_digit {ch : Char} (h : ch.isDigit = true) (cs : List Char) :
    Utf8.encode (ch :: cs) = ch.toNat.toUInt8 :: Utf8.encode cs := by
  have hsmall : ch.toNat < 0x80 := lt_of_le_of_lt (bounds_of_isDigit h).2 (by decide)
  rw [Utf8.encode_cons, Utf8.encodeChar_ascii hsmall, List.cons_append, List.nil_append]

lemma le_ofDigitChars (cs : List Char) (s : Nat) : s ≤ Nat.ofDigitChars 10 cs s := by
  induction cs generalizing s with
  | nil => simp
  | cons ch cs ih =>
    rw [Nat.ofDigitChars_cons]
    exact le_trans (by omega) (ih _)

/-- Digits whose worth stays in 64 bits are all taken. -/
lemma moreDigits_encode (h : Stops behind) {cs : List Char} (hcs : ∀ ch ∈ cs, ch.isDigit = true)
    {s : Nat} (hs : Nat.ofDigitChars 10 cs s < digitLimit) (n : Nat) :
    moreDigits s (Utf8.encode cs ++ behind) n
      = (Nat.ofDigitChars 10 cs s, n + (Utf8.encode cs).length, false) := by
  induction cs generalizing s n with
  | nil => rw [moreDigits_append h]; rfl
  | cons ch cs ih =>
    obtain ⟨hdigit, hvalue⟩ := isDigit_toUInt8 (hcs ch (by simp))
    have hworth : s * 10 + digitValue ch.toNat.toUInt8 = 10 * s + (ch.toNat - '0'.toNat) := by
      rw [hvalue, Nat.mul_comm]
      rfl
    rw [Nat.ofDigitChars_cons] at hs ⊢
    have hfits : ¬ digitLimit ≤ 10 * s + (ch.toNat - '0'.toNat) := by
      have := le_ofDigitChars cs (10 * s + (ch.toNat - '0'.toNat))
      omega
    rw [encode_cons_digit (hcs ch (by simp)), List.cons_append, moreDigits, if_pos hdigit, hworth,
      if_neg hfits, ih (fun d hd => hcs d (by simp [hd])) hs, List.length_cons]
    simp [Nat.add_assoc, Nat.add_comm]

/-- The first digit of a positive number is no zero. -/
lemma head_toDigits_ne {n : Nat} (h : 0 < n) : (Nat.toDigits 10 n).head? ≠ some '0' := by
  induction n using Nat.strongRecOn with
  | _ n ih =>
    by_cases hsmall : n < 10
    · rw [Nat.toDigits_of_lt_base hsmall]
      interval_cases n <;> decide
    · rw [Nat.toDigits_of_base_le (by decide) (by omega), List.head?_append_of_ne_nil _
        Nat.toDigits_ne_nil]
      exact ih (n / 10) (by omega) (by omega)

lemma afterDigits_stops (h : Stops c.rest) (positive : Bool) (s : Nat) :
    afterDigits positive s c
      = if positive then .ok (.int s, c)
        else if s = 0 || Decimal.limit63 < s then realFrom false s 0 c
        else .ok (.int (-(s : Int)), c) := by
  have hends : Cursor.within ⟨[], c.index⟩ 0 c.rest = c := by simp [Cursor.within]
  have hpoint : (c.peek == 0x2E) = false := by
    rw [← hends, Cursor.beq_peek_within (by decide) h]
    rfl
  have hexp : opensExponent c.peek = false := by
    rw [← hends, Cursor.opensExponent_peek_within h]
    rfl
  simp only [afterDigits, hpoint, hexp, Bool.false_eq_true, if_false]

/-- The digits of a whole number of 64 bits are read as that number, before its sign. -/
lemma readNumber_toDigits (h : Stops behind) {n : Nat} (hn : n < digitLimit) (positive : Bool)
    (index : Nat) :
    ∃ j, readNumber positive ⟨Utf8.encode (Nat.toDigits 10 n) ++ behind, index⟩
      = afterDigits positive n ⟨behind, j⟩ := by
  rcases Nat.eq_zero_or_pos n with rfl | hpos
  · have hstop : isDigit (Cursor.peek ⟨behind, index + 1⟩) = false := by
      cases behind with
      | nil => rfl
      | cons b behind => exact h.isDigit
    have hzero : Utf8.encode (Nat.toDigits 10 0) = [0x30] := rfl
    refine ⟨index + 1, ?_⟩
    simp only [hzero, List.cons_append, List.nil_append, readNumber, Cursor.skip,
      List.drop_succ_cons, List.drop_zero, hstop, beq_self_eq_true, if_true, Bool.false_eq_true,
      if_false]
  · have hfirst := head_toDigits_ne hpos
    have hdigits := Decimal.isDigit_toDigits n
    have hvalue : Nat.ofDigitChars 10 (Nat.toDigits 10 n) 0 = n := Nat.ofDigitChars_ten_toDigits
    cases hcs : Nat.toDigits 10 n with
    | nil => exact absurd hcs Nat.toDigits_ne_nil
    | cons ch cs =>
      rw [hcs] at hfirst hdigits hvalue
      obtain ⟨hdigit, hworth⟩ := isDigit_toUInt8 (hdigits ch (by simp))
      have hnonzero : (ch.toNat.toUInt8 == 0x30) = false := by
        refine beq_eq_false_iff_ne.2 fun hzero => hfirst ?_
        rw [hzero] at hworth
        rw [List.head?_cons, eq_zero_of_isDigit (hdigits ch (by simp)) hworth.symm]
      have hrest : moreDigits (digitValue ch.toNat.toUInt8) (Utf8.encode cs ++ behind) 0
          = (n, (Utf8.encode cs).length, false) := by
        have hhead : Nat.ofDigitChars 10 cs (digitValue ch.toNat.toUInt8) = n := by
          rw [← hvalue, Nat.ofDigitChars_cons, hworth, Nat.mul_zero, Nat.zero_add]
          rfl
        rw [moreDigits_encode h (fun d hd => hdigits d (by simp [hd])) (by rwa [hhead]), hhead,
          Nat.zero_add]
      refine ⟨index + 1 + (Utf8.encode cs).length, ?_⟩
      rw [encode_cons_digit (hdigits ch (by simp)), List.cons_append]
      simp only [readNumber, hnonzero, hdigit, hrest, Cursor.skip, List.drop_succ_cons,
        List.drop_zero, List.drop_left, Bool.false_eq_true, if_true, if_false]

/-- **A whole number without a sign** is read from its digits. -/
theorem readNumber_nat (h : Stops behind) {n : Nat} (hn : n < Decimal.limit64) (index : Nat) :
    ∃ j, readNumber true ⟨Utf8.encode (Nat.toDigits 10 n) ++ behind, index⟩
      = .ok (.int n, ⟨behind, j⟩) := by
  obtain ⟨j, hj⟩ := readNumber_toDigits h hn true index
  exact ⟨j, by rw [hj, afterDigits_stops h, if_pos rfl]⟩

/-- **A whole number below zero** is read from the digits after its sign. -/
theorem readNumber_neg (h : Stops behind) {n : Nat} (hpos : 0 < n) (hn : n ≤ Decimal.limit63)
    (index : Nat) :
    ∃ j, readNumber false ⟨Utf8.encode (Nat.toDigits 10 n) ++ behind, index⟩
      = .ok (.int (-(n : Int)), ⟨behind, j⟩) := by
  have hlimit : Decimal.limit63 < digitLimit := by decide
  obtain ⟨j, hj⟩ := readNumber_toDigits h (hn.trans_lt hlimit) false index
  refine ⟨j, ?_⟩
  have hsmall : ¬ (n = 0 || Decimal.limit63 < n) = true := by
    simp only [Bool.or_eq_true, decide_eq_true_eq, not_or]
    omega
  rw [hj, afterDigits_stops h, if_neg (by simp), if_neg hsmall]

/-! ## The text of other numbers -/

lemma continuesNumber_of_isDigit (h : isDigit b = true) : continuesNumber b = true := by
  simp [continuesNumber, h]

/-- The characters of a number that is no whole one. -/
def isNumeral (ch : Char) : Bool := ch.isDigit || ch == '.' || ch == 'e' || ch == '+' || ch == '-'

lemma isNumeral_of_mem_toDigits {n : Nat} {ch : Char} (h : ch ∈ Nat.toDigits 10 n) :
    isNumeral ch = true := by
  simp [isNumeral, Decimal.isDigit_toDigits n ch h]

lemma isNumeral_decimalText (digits : Nat) (power : Int) :
    ∀ ch ∈ (decimalText digits power).toList, isNumeral ch = true := by
  have hdigits : ∀ ch ∈ Nat.toDigits 10 digits, isNumeral ch = true :=
    fun _ => isNumeral_of_mem_toDigits
  have hzeros (n : Nat) : ∀ ch ∈ List.replicate n '0', isNumeral ch = true := by
    intro ch hch
    obtain rfl := List.eq_of_mem_replicate hch
    decide
  simp only [decimalText, String.toList_ofList]
  split
  · simp only [List.forall_mem_append]
    exact ⟨⟨hdigits, hzeros _⟩, by simp [isNumeral]⟩
  split
  · simp only [List.forall_mem_append, List.forall_mem_cons]
    exact ⟨fun ch hch => hdigits ch (List.mem_of_mem_take hch), by decide,
      fun ch hch => hdigits ch (List.mem_of_mem_drop hch)⟩
  split
  · simp only [List.cons_append, List.forall_mem_append, List.forall_mem_cons]
    exact ⟨by decide, by decide, hzeros _, hdigits⟩
  · have hsign (p : Prop) [Decidable p] : isNumeral (if p then '-' else '+') = true := by
      split <;> decide
    simp only [List.forall_mem_append, List.forall_mem_cons]
    refine ⟨?_, by decide, hsign _, fun _ => isNumeral_of_mem_toDigits⟩
    split
    next d heq =>
      rw [← heq]
      exact hdigits
    next d rest _ heq =>
      rw [heq, List.forall_mem_cons] at hdigits
      exact List.forall_mem_cons.2 ⟨hdigits.1, List.forall_mem_cons.2 ⟨by decide, hdigits.2⟩⟩
    next => simp

lemma isNumeral_toText (x : Binary) : ∀ ch ∈ x.toText.toList, isNumeral ch = true := by
  have hunsigned : ∀ ch ∈ (if x.isZero then "0.0"
      else decimalText (shortestDigits x).1 (shortestDigits x).2).toList, isNumeral ch = true := by
    split
    · simp [isNumeral]
    · exact isNumeral_decimalText _ _
  simp only [Binary.toText]
  split
  · rw [String.toList_append, List.forall_mem_append]
    exact ⟨by simp [isNumeral], hunsigned⟩
  · exact hunsigned

lemma continuesNumber_of_isNumeral {ch : Char} (h : isNumeral ch = true) :
    ∃ b, Utf8.encodeChar ch = [b] ∧ continuesNumber b = true := by
  simp only [isNumeral, Bool.or_eq_true, beq_iff_eq] at h
  rcases h with (((hdigit | rfl) | rfl) | rfl) | rfl
  · have hsmall : ch.toNat < 0x80 := lt_of_le_of_lt (bounds_of_isDigit hdigit).2 (by decide)
    exact ⟨_, Utf8.encodeChar_ascii hsmall, continuesNumber_of_isDigit (isDigit_toUInt8 hdigit).1⟩
  all_goals exact ⟨_, rfl, by decide⟩

lemma continuesNumber_toText (x : Binary) :
    ∀ b ∈ Utf8.ofString x.toText, continuesNumber b = true := by
  intro b hb
  rw [Utf8.ofString, Utf8.encode, List.mem_flatMap] at hb
  obtain ⟨ch, hch, hb⟩ := hb
  obtain ⟨b', hb', hcontinues⟩ := continuesNumber_of_isNumeral (isNumeral_toText x ch hch)
  rw [hb', List.mem_singleton] at hb
  exact hb ▸ hcontinues

end ServerLink.Json
