import Mathlib
import ServerLink.Text.Decimal

/-!
# Numbers survive their digits

The digits of a number read back as the number, whatever the bound it is read against, and nothing
else reads as one.

* `value_toDigits` — the digits alone.
* **`natBelow?_toDigits`** — with the sign that may stand in front of them and the bound.
* `Numeral` — the texts that stand for a number, and the number.
* **`natBelow?_eq_some_iff`** — a number is read from its numerals only.
-/

namespace ServerLink.Decimal

lemma digit?_of_isDigit {c : Char} (h : c.isDigit = true) : digit? c = some (c.toNat - 48) := by
  rw [Char.isDigit, Bool.and_eq_true, decide_eq_true_eq, decide_eq_true_eq] at h
  exact if_pos h

/-- Digits read after those worth `n` are worth what they are worth in one run with them. -/
lemma value_eq_ofDigitChars {cs : List Char} (h : ∀ c ∈ cs, c.isDigit = true) (n : Nat) :
    value n cs = some (Nat.ofDigitChars 10 cs n) := by
  induction cs generalizing n with
  | nil => simp [value]
  | cons c cs ih =>
    rw [value, digit?_of_isDigit (h c (by simp)), Nat.ofDigitChars_cons, Nat.mul_comm]
    exact ih (fun d hd => h d (by simp [hd])) _

lemma isDigit_toDigits (n : Nat) : ∀ c ∈ Nat.toDigits 10 n, c.isDigit = true :=
  fun _ hc => Nat.isDigit_of_mem_toDigits (by decide) (by decide) hc

lemma value_toDigits (n : Nat) : value 0 (Nat.toDigits 10 n) = some n := by
  rw [value_eq_ofDigitChars (isDigit_toDigits n), Nat.ofDigitChars_ten_toDigits]

/-- **The digits of a number read back as the number** if it is below the bound. -/
theorem natBelow?_toDigits {bound n : Nat} (h : n < bound) :
    natBelow? bound (Nat.toDigits 10 n) = some n := by
  have hv := value_toDigits n
  have hd := isDigit_toDigits n
  have hne : Nat.toDigits 10 n ≠ [] := Nat.toDigits_ne_nil
  cases hcs : Nat.toDigits 10 n with
  | nil => exact absurd hcs hne
  | cons c cs =>
    rw [hcs] at hv hd
    have hplus : c ≠ '+' := by
      rintro rfl
      exact absurd (hd '+' (by simp)) (by decide)
    simp [natBelow?, hplus, hv, h]

/-- Numbers with the same digits are the same. -/
lemma ofNat_injective : Function.Injective ofNat := fun a b h => by
  have hdigits : Nat.toDigits 10 a = Nat.toDigits 10 b := by
    simpa [ofNat] using congrArg String.toList h
  have hvalue := value_toDigits a
  rw [hdigits, value_toDigits] at hvalue
  exact (Option.some.inj hvalue).symm

/-! ## What reads as a number -/

lemma isDigit_of_digit? {c : Char} {d : Nat} (h : digit? c = some d) : c.isDigit = true := by
  rw [digit?, Option.ite_none_right_eq_some] at h
  rw [Char.isDigit, Bool.and_eq_true, decide_eq_true_eq, decide_eq_true_eq]
  exact h.1

lemma value_eq_some_iff {cs : List Char} {m n : Nat} :
    value m cs = some n ↔ (∀ c ∈ cs, c.isDigit = true) ∧ n = Nat.ofDigitChars 10 cs m := by
  constructor
  · intro h
    have hall : ∀ c ∈ cs, c.isDigit = true := by
      induction cs generalizing m with
      | nil => simp
      | cons c cs ih =>
        rw [value] at h
        split at h
        · rename_i d hd
          rw [List.forall_mem_cons]
          exact ⟨isDigit_of_digit? hd, ih h⟩
        · cases h
    rw [value_eq_ofDigitChars hall, Option.some.injEq] at h
    exact ⟨hall, h.symm⟩
  · rintro ⟨hall, rfl⟩
    exact value_eq_ofDigitChars hall m

/-- The text is an optional plus sign and one or more digits, which stand for `n`. -/
def Numeral (cs : List Char) (n : Nat) : Prop :=
  ∃ digits, (cs = digits ∨ cs = '+' :: digits) ∧ digits ≠ [] ∧ (∀ c ∈ digits, c.isDigit = true)
    ∧ n = Nat.ofDigitChars 10 digits 0

/-- Reads the digits behind the sign. -/
def digitsBelow? (bound : Nat) (digits : List Char) : Option Nat :=
  if digits = [] then none else (value 0 digits).filter (· < bound)

lemma digitsBelow?_eq_some_iff {bound n : Nat} {digits : List Char} :
    digitsBelow? bound digits = some n ↔ digits ≠ [] ∧ (∀ c ∈ digits, c.isDigit = true)
      ∧ n = Nat.ofDigitChars 10 digits 0 ∧ n < bound := by
  rw [digitsBelow?, Option.ite_none_left_eq_some, Option.filter_eq_some_iff, value_eq_some_iff,
    decide_eq_true_eq, and_assoc]

lemma natBelow?_signed (bound : Nat) (digits : List Char) :
    natBelow? bound ('+' :: digits) = digitsBelow? bound digits := by
  cases digits with
  | nil => rfl
  | cons c cs =>
    rw [digitsBelow?, if_neg (by simp), natBelow?]
    · cases value 0 (c :: cs) <;> simp [Option.filter]
    · simp

lemma natBelow?_plain (bound : Nat) {cs : List Char} (h : ∀ digits, cs ≠ '+' :: digits) :
    natBelow? bound cs = digitsBelow? bound cs := by
  cases cs with
  | nil => rfl
  | cons c cs =>
    rw [digitsBelow?, if_neg (by simp), natBelow?]
    · cases value 0 (c :: cs) <;> simp [Option.filter]
    · exact h
    · simp

/-- **A number is read from its numeral**, below the bound. -/
theorem natBelow?_eq_some_iff {bound n : Nat} {cs : List Char} :
    natBelow? bound cs = some n ↔ Numeral cs n ∧ n < bound := by
  by_cases hsign : ∃ digits, cs = '+' :: digits
  · obtain ⟨digits, rfl⟩ := hsign
    rw [natBelow?_signed, digitsBelow?_eq_some_iff]
    constructor
    · rintro ⟨hne, hall, hn, hlt⟩
      exact ⟨⟨digits, .inr rfl, hne, hall, hn⟩, hlt⟩
    · rintro ⟨⟨ds, rfl | hds, hne, hall, hn⟩, hlt⟩
      · exact absurd (hall '+' List.mem_cons_self) (by decide)
      · rw [List.cons.injEq] at hds
        exact hds.2 ▸ ⟨hne, hall, hn, hlt⟩
  · rw [not_exists] at hsign
    rw [natBelow?_plain bound hsign, digitsBelow?_eq_some_iff]
    constructor
    · rintro ⟨hne, hall, hn, hlt⟩
      exact ⟨⟨cs, .inl rfl, hne, hall, hn⟩, hlt⟩
    · rintro ⟨⟨ds, rfl | rfl, hne, hall, hn⟩, hlt⟩
      · exact ⟨hne, hall, hn, hlt⟩
      · exact absurd rfl (hsign ds)

end ServerLink.Decimal
