import Mathlib
import ServerLink.Text.Utf8

/-!
# Text survives its bytes

Encoding a text and decoding the bytes gives the text back.  The decoder is a machine on single
bytes, so the argument goes through **what one character spells**:

* `Spells s bs c` — from state `s` the bytes `bs` are accepted one after the other and the last of
  them completes `c`.
* `spells_encodeChar` — the bytes of a character spell it.  This is the only place where the bit
  arithmetic is done.
* `Follows` — what the lossy and the strict decoder have in common: both take up what is accepted.
* **`decodeLossy_encode`** — decoding is a left inverse of encoding; `toStringLossy_ofString` and
  `toString?_ofString` are the same for texts.
-/

namespace ServerLink.Utf8

/-! ## Texts and lists of characters -/

@[simp] lemma encode_nil : encode [] = [] := rfl

lemma encode_cons (c : Char) (cs : List Char) : encode (c :: cs) = encodeChar c ++ encode cs := by
  simp [encode]

lemma encode_append (a b : List Char) : encode (a ++ b) = encode a ++ encode b := by
  simp [encode]

lemma ofString_append (a b : String) : ofString (a ++ b) = ofString a ++ ofString b := by
  rw [ofString, String.toList_append, encode_append, ofString, ofString]

lemma ofString_ofList (cs : List Char) : ofString (String.ofList cs) = encode cs := by
  rw [ofString, String.toList_ofList]

lemma encodeChar_ascii {c : Char} (h : c.toNat < 0x80) : encodeChar c = [c.toNat.toUInt8] := by
  simp [encodeChar, h]

lemma encodeChar_ne_nil (c : Char) : encodeChar c ≠ [] := by
  rw [encodeChar]
  split_ifs <;> simp

lemma length_le_encode (cs : List Char) : cs.length ≤ (encode cs).length := by
  induction cs with
  | nil => rfl
  | cons c cs ih =>
    have hone := List.length_pos_iff.2 (encodeChar_ne_nil c)
    rw [encode_cons, List.length_append, List.length_cons]
    omega

lemma encode_ne_nil {cs : List Char} (h : cs ≠ []) : encode cs ≠ [] :=
  List.length_pos_iff.1 ((List.length_pos_iff.2 h).trans_le (length_le_encode cs))

/-! ## Spelling a character -/

/-- From a state, the bytes are accepted and the last one completes the character. -/
inductive Spells : Option Owed → Bytes → Char → Prop where
  | last {s : Option Owed} {b : UInt8} {c : Char} (h : accept s b = some (some c, none)) :
      Spells s [b] c
  | more {s : Option Owed} {b : UInt8} {o : Owed} {bs : Bytes} {c : Char}
      (h : accept s b = some (none, some o)) (later : Spells (some o) bs c) : Spells s (b :: bs) c

/-- A decoder takes up each byte that is accepted, with the characters read before and what is
owed. -/
def Follows {α : Type} (read : List Char → Option Owed → Bytes → α) : Prop :=
  ∀ {s s' : Option Owed} {b : UInt8} {c : Option Char}, accept s b = some (c, s') →
    ∀ (done : List Char) (rest : Bytes), read done s (b :: rest) = read (push c done) s' rest

lemma follows_lossyFrom : Follows lossyFrom := by
  intro s s' b c h done rest
  cases s <;> simp [lossyFrom, h]

lemma follows_strictFrom : Follows strictFrom := by
  intro s s' b c h done rest
  cases s <;> simp [strictFrom, h]

/-- Bytes that spell a character are read as that character, whatever follows. -/
lemma Follows.spells {α : Type} {read : List Char → Option Owed → Bytes → α} (hread : Follows read)
    {s : Option Owed} {bs : Bytes} {c : Char} (h : Spells s bs c) (done : List Char)
    (rest : Bytes) :
    read done s (bs ++ rest) = read (c :: done) none rest := by
  induction h with
  | last h => rw [List.cons_append, List.nil_append, hread h, push]
  | more h _ ih => rw [List.cons_append, hread h, push, ih]

/-! ### The bytes of a character -/

lemma toNat_toUInt8 {n : Nat} (h : n < 256) : n.toUInt8.toNat = n := by
  simp [Nat.mod_eq_of_lt h]

lemma accept_last {bits n : Nat} {low high : UInt8} (hlow : low.toNat ≤ n)
    (hhigh : n ≤ high.toNat) :
    accept (some ⟨bits, 1, low, high⟩) n.toUInt8
      = some (some (Char.ofNat (bits * 0x40 + (n - 0x80))), none) := by
  have hn : n.toUInt8.toNat = n := toNat_toUInt8 (by have := high.toNat_lt; omega)
  simp [accept, UInt8.le_iff_toNat_le, hn, hlow, hhigh]

lemma accept_more {bits left n : Nat} {low high : UInt8} (hleft : 0 < left)
    (hlow : low.toNat ≤ n) (hhigh : n ≤ high.toNat) :
    accept (some ⟨bits, left + 1, low, high⟩) n.toUInt8
      = some (none, some ⟨bits * 0x40 + (n - 0x80), left, 0x80, 0xBF⟩) := by
  have hn : n.toUInt8.toNat = n := toNat_toUInt8 (by have := high.toNat_lt; omega)
  have hl : ¬ left + 1 ≤ 1 := by omega
  simp [accept, UInt8.le_iff_toNat_le, hn, hlow, hhigh, hl]

/-- The last byte of a character puts its lowest six bits in place. -/
lemma spells_one (n : Nat) (low high : UInt8) (hlow : low.toNat ≤ 0x80 + n % 0x40)
    (hhigh : 0x80 + n % 0x40 ≤ high.toNat) :
    Spells (some ⟨n / 0x40, 1, low, high⟩) [(0x80 + n % 0x40).toUInt8] (Char.ofNat n) := by
  have bits : n / 0x40 * 0x40 + (0x80 + n % 0x40 - 0x80) = n := by omega
  refine Spells.last ?_
  rw [accept_last hlow hhigh, bits]

lemma spells_two (n : Nat) (low high : UInt8) (hlow : low.toNat ≤ 0x80 + n / 0x40 % 0x40)
    (hhigh : 0x80 + n / 0x40 % 0x40 ≤ high.toNat) :
    Spells (some ⟨n / 0x1000, 2, low, high⟩)
      [(0x80 + n / 0x40 % 0x40).toUInt8, (0x80 + n % 0x40).toUInt8] (Char.ofNat n) := by
  have bits : n / 0x1000 * 0x40 + (0x80 + n / 0x40 % 0x40 - 0x80) = n / 0x40 := by omega
  refine Spells.more (o := ⟨n / 0x40, 1, 0x80, 0xBF⟩) ?_
    (spells_one n _ _ (by simp) (by simp; omega))
  rw [accept_more (by decide) hlow hhigh, bits]

lemma spells_three (n : Nat) (low high : UInt8) (hlow : low.toNat ≤ 0x80 + n / 0x1000 % 0x40)
    (hhigh : 0x80 + n / 0x1000 % 0x40 ≤ high.toNat) :
    Spells (some ⟨n / 0x40000, 3, low, high⟩)
      [(0x80 + n / 0x1000 % 0x40).toUInt8, (0x80 + n / 0x40 % 0x40).toUInt8,
        (0x80 + n % 0x40).toUInt8] (Char.ofNat n) := by
  have bits : n / 0x40000 * 0x40 + (0x80 + n / 0x1000 % 0x40 - 0x80) = n / 0x1000 := by omega
  refine Spells.more (o := ⟨n / 0x1000, 2, 0x80, 0xBF⟩) ?_
    (spells_two n _ _ (by simp) (by simp; omega))
  rw [accept_more (by decide) hlow hhigh, bits]

/-- The numbers of characters: surrogates are none. -/
lemma toNat_valid (c : Char) : c.toNat < 0xD800 ∨ 0xDFFF < c.toNat ∧ c.toNat < 0x110000 :=
  c.valid

/-- **A character's bytes spell it.**  One case for each length.  The bounds of the second byte are
where the number has to be no surrogate, not overlong and below the last character. -/
theorem spells_encodeChar (c : Char) : Spells none (encodeChar c) c := by
  have hv := toNat_valid c
  have hc : Char.ofNat c.toNat = c := Char.ofNat_toNat c
  rw [encodeChar]
  generalize c.toNat = n at hv hc
  subst hc
  by_cases h1 : n < 0x80
  · rw [if_pos h1]
    refine Spells.last ?_
    rw [accept, first, toNat_toUInt8 (by omega), if_pos h1]
  rw [if_neg h1]
  by_cases h2 : n < 0x800
  · rw [if_pos h2]
    refine Spells.more ?_ (spells_one n 0x80 0xBF (by simp) (by simp; omega))
    rw [accept, first, toNat_toUInt8 (by omega), if_neg (by omega), if_neg (by omega),
      if_pos (by omega), Nat.add_sub_cancel_left]
  rw [if_neg h2]
  by_cases h3 : n < 0x10000
  · rw [if_pos h3]
    refine Spells.more ?_ (spells_two n (if 0xE0 + n / 0x1000 = 0xE0 then 0xA0 else 0x80)
      (if 0xE0 + n / 0x1000 = 0xED then 0x9F else 0xBF) ?_ ?_)
    · rw [accept, first, toNat_toUInt8 (by omega), if_neg (by omega), if_neg (by omega),
        if_neg (by omega), if_pos (by omega), Nat.add_sub_cancel_left]
    · split <;> simp; omega
    · split <;> simp <;> omega
  · rw [if_neg h3]
    refine Spells.more ?_ (spells_three n (if 0xF0 + n / 0x40000 = 0xF0 then 0x90 else 0x80)
      (if 0xF0 + n / 0x40000 = 0xF4 then 0x8F else 0xBF) ?_ ?_)
    · rw [accept, first, toNat_toUInt8 (by omega), if_neg (by omega), if_neg (by omega),
        if_neg (by omega), if_neg (by omega), if_pos (by omega), Nat.add_sub_cancel_left]
    · split <;> simp; omega
    · split <;> simp <;> omega

/-! ## The round trip -/

lemma Follows.encode {α : Type} {read : List Char → Option Owed → Bytes → α} (hread : Follows read)
    (cs done : List Char) (rest : Bytes) :
    read done none (Utf8.encode cs ++ rest) = read (cs.reverse ++ done) none rest := by
  induction cs generalizing done with
  | nil => simp
  | cons c cs ih =>
    rw [encode_cons, List.append_assoc, hread.spells (spells_encodeChar c), ih]
    simp

/-- **Decoding gives back what was encoded.** -/
theorem decodeLossy_encode (cs : List Char) : decodeLossy (encode cs) = cs := by
  have h := follows_lossyFrom.encode cs [] []
  rw [List.append_nil, List.append_nil] at h
  rw [decodeLossy, h, lossyFrom, List.reverse_reverse]

/-- The bytes of a text decode to it. -/
theorem toStringLossy_ofString (s : String) : toStringLossy (ofString s) = s := by
  rw [toStringLossy, ofString, decodeLossy_encode, String.ofList_toList]

/-- Nothing of a text is refused. -/
theorem toString?_ofString (s : String) : toString? (ofString s) = some s := by
  have h := follows_strictFrom.encode s.toList [] []
  rw [List.append_nil, List.append_nil] at h
  rw [toString?, decode?, ofString, h, strictFrom, List.reverse_reverse, Option.map_some,
    String.ofList_toList]

end ServerLink.Utf8
