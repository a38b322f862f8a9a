import Mathlib
import ServerLink.Json.Reader
import ServerLink.Json.Writer
import ServerLink.Proofs.Text.Utf8

/-!
# Strings survive being written

A string is written character by character, each as itself or as an escape, and read byte by byte.
The two meet at the character.

* `stands_escapeChar` — what is written for a character is read as the bytes of the character.
  The cases are those of the writer: seven escapes by a letter, the other controls by number, and
  all other characters as they are.
* **`readText_escaped`** — a whole string.
-/

namespace ServerLink.Json

open Utf8 (encode encodeChar)

variable {rest : Bytes} {index : Nat}

/-! ## One step of the reader -/

/-- Whether a byte stands for itself in a string. -/
def IsPlain (b : UInt8) : Prop := b ≠ 0x22 ∧ b ≠ 0x5C ∧ 0x20 ≤ b

lemma readString_quote (fuel : Nat) (read : Bytes) :
    readString (fuel + 1) ⟨0x22 :: rest, index⟩ read = .ok (read.reverse, ⟨rest, index + 1⟩) := rfl

lemma readString_escape {bs : Bytes} {c : Cursor}
    (h : readEscape ⟨rest, index + 1⟩ = .ok (bs, c)) (fuel : Nat) (read : Bytes) :
    readString (fuel + 1) ⟨0x5C :: rest, index⟩ read = readString fuel c (bs.reverse ++ read) := by
  simp [readString, Cursor.skip, h]

lemma readString_plain {bs : Bytes} (h : ∀ b ∈ bs, IsPlain b) (fuel : Nat) (read : Bytes) :
    readString (fuel + bs.length) ⟨bs ++ rest, index⟩ read
      = readString fuel ⟨rest, index + bs.length⟩ (bs.reverse ++ read) := by
  induction bs generalizing index read with
  | nil => rfl
  | cons b bs ih =>
    obtain ⟨hquote, hslash, hcontrol⟩ := h b (by simp)
    have hlow : ¬ b < 0x20 := UInt8.not_lt.2 hcontrol
    rw [List.length_cons, ← Nat.add_assoc, List.cons_append, readString]
    simp only [beq_iff_eq, hquote, hslash, hlow, if_false, Cursor.skip, List.drop_succ_cons,
      List.drop_zero]
    rw [ih (fun d hd => h d (by simp [hd]))]
    simp [Nat.add_left_comm, Nat.add_comm]

/-! ## What is written for a character -/

/-- A control character by its number, in four digits of base sixteen. -/
lemma readEscape_control {n : Nat} (h : n < 0x20) (rest : Bytes) (index : Nat) :
    readEscape ⟨0x75 :: (encode (List.replicate (4 - (Nat.toDigits 16 n).length) '0'
        ++ Nat.toDigits 16 n) ++ rest), index⟩
      = .ok (encodeChar (Char.ofNat n), ⟨rest, index + 5⟩) := by
  interval_cases n <;> rfl

lemma isPlain_toUInt8 {n : Nat} (h : n < 0x100) (hquote : n ≠ 0x22) (hslash : n ≠ 0x5C)
    (hcontrol : 0x20 ≤ n) : IsPlain n.toUInt8 := by
  have hbyte : n.toUInt8.toNat = n := Utf8.toNat_toUInt8 h
  refine ⟨fun heq => hquote ?_, fun heq => hslash ?_, ?_⟩
  · rw [← hbyte, heq]; rfl
  · rw [← hbyte, heq]; rfl
  · rw [UInt8.le_iff_toNat_le, hbyte]
    exact hcontrol

/-- A character that is not escaped has only plain bytes: its number, or, where it has several
bytes, none below U+0080. -/
lemma isPlain_of_mem_encodeChar {ch : Char} (hquote : ch ≠ '"') (hslash : ch ≠ '\\')
    (hcontrol : 0x20 ≤ ch.toNat) : ∀ b ∈ encodeChar ch, IsPlain b := by
  have hnumber : ∀ d : Char, ch ≠ d → ch.toNat ≠ d.toNat :=
    fun d hne heq => hne (by rw [← Char.ofNat_toNat ch, heq, Char.ofNat_toNat])
  have hvalid := Utf8.toNat_valid ch
  by_cases hascii : ch.toNat < 0x80
  · rw [Utf8.encodeChar_ascii hascii]
    simpa using isPlain_toUInt8 (by omega) (hnumber _ hquote) (hnumber _ hslash) hcontrol
  · have hhigh : ∀ n : Nat, 0x80 ≤ n → n < 0x100 → IsPlain n.toUInt8 :=
      fun n hlow hbyte => isPlain_toUInt8 hbyte (by omega) (by omega) (by omega)
    unfold encodeChar
    simp only [hascii, if_false]
    split
    · simp only [List.forall_mem_cons, List.not_mem_nil, false_implies, implies_true, and_true]
      exact ⟨hhigh _ (by omega) (by omega), hhigh _ (by omega) (by omega)⟩
    · split
      · simp only [List.forall_mem_cons, List.not_mem_nil, false_implies, implies_true, and_true]
        exact ⟨hhigh _ (by omega) (by omega), hhigh _ (by omega) (by omega),
          hhigh _ (by omega) (by omega)⟩
      · simp only [List.forall_mem_cons, List.not_mem_nil, false_implies, implies_true, and_true]
        exact ⟨hhigh _ (by omega) (by omega), hhigh _ (by omega) (by omega),
          hhigh _ (by omega) (by omega), hhigh _ (by omega) (by omega)⟩

/-- What the reader does with the bytes written for a character: so many steps, and then the bytes
of the character have been read. -/
def Stands (text bytes : Bytes) : Prop :=
  ∀ rest index, ∃ steps j, steps ≤ text.length ∧ ∀ fuel read,
    readString (fuel + steps) ⟨text ++ rest, index⟩ read
      = readString fuel ⟨rest, j⟩ (bytes.reverse ++ read)

/-- An escape is read in one step. -/
lemma exists_readString_of_readEscape (text : Bytes) {bytes : Bytes} {after : Nat}
    (h : readEscape ⟨text ++ rest, index + 1⟩ = .ok (bytes, ⟨rest, after⟩)) :
    ∃ steps j, steps ≤ (0x5C :: text).length ∧ ∀ fuel read,
      readString (fuel + steps) ⟨0x5C :: text ++ rest, index⟩ read
        = readString fuel ⟨rest, j⟩ (bytes.reverse ++ read) :=
  ⟨1, after, by simp, readString_escape h⟩

/-- **What is written for a character stands for its bytes.** -/
theorem stands_escapeChar (ch : Char) : Stands (encode (escapeChar ch)) (encodeChar ch) := by
  intro rest index
  unfold escapeChar
  -- the escapes by a letter in the writer's order, then the controls by number, then all others
  split
  · exact exists_readString_of_readEscape [0x22] rfl
  · exact exists_readString_of_readEscape [0x5C] rfl
  · exact exists_readString_of_readEscape [0x62] rfl
  · exact exists_readString_of_readEscape [0x74] rfl
  · exact exists_readString_of_readEscape [0x6E] rfl
  · exact exists_readString_of_readEscape [0x66] rfl
  · exact exists_readString_of_readEscape [0x72] rfl
  · split
    next hcontrol =>
      have hescape := readEscape_control hcontrol rest (index + 1)
      rw [Char.ofNat_toNat] at hescape
      rw [List.append_assoc]
      exact exists_readString_of_readEscape (0x75 :: encode _) hescape
    next hquote hslash _ _ _ _ _ hcontrol =>
      have hplain := isPlain_of_mem_encodeChar hquote hslash (by omega)
      rw [Utf8.encode_cons, Utf8.encode_nil, List.append_nil]
      exact ⟨_, _, le_rfl, readString_plain hplain⟩

/-! ## A whole string -/

lemma readString_escaped (cs : List Char) {fuel : Nat}
    (hfuel : (encode (cs.flatMap escapeChar)).length < fuel) (rest : Bytes) (index : Nat)
    (read : Bytes) :
    ∃ j, readString fuel ⟨encode (cs.flatMap escapeChar) ++ 0x22 :: rest, index⟩ read
      = .ok (read.reverse ++ encode cs, ⟨rest, j⟩) := by
  induction cs generalizing fuel index read with
  | nil =>
    obtain ⟨fuel, rfl⟩ : ∃ n, fuel = n + 1 := ⟨fuel - 1, by omega⟩
    exact ⟨index + 1, by simpa using readString_quote fuel read⟩
  | cons ch cs ih =>
    rw [List.flatMap_cons, Utf8.encode_append, List.length_append] at hfuel
    obtain ⟨steps, j, hsteps, hstep⟩ :=
      stands_escapeChar ch (encode (cs.flatMap escapeChar) ++ 0x22 :: rest) index
    obtain ⟨fuel, rfl⟩ : ∃ n, fuel = n + steps := ⟨fuel - steps, by omega⟩
    have hrest : (encode (cs.flatMap escapeChar)).length < fuel := by omega
    obtain ⟨k, hk⟩ := ih hrest j ((encodeChar ch).reverse ++ read)
    refine ⟨k, ?_⟩
    rw [List.flatMap_cons, Utf8.encode_append, List.append_assoc, hstep, hk, Utf8.encode_cons]
    simp

/-- **A string is read back** from what is written for it, after its opening quote. -/
theorem readText_escaped (s : String) (rest : Bytes) (index : Nat) :
    ∃ j, readText ⟨encode (s.toList.flatMap escapeChar) ++ 0x22 :: rest, index⟩
      = .ok (s, ⟨rest, j⟩) := by
  have hfuel : (encode (s.toList.flatMap escapeChar)).length
      < (encode (s.toList.flatMap escapeChar) ++ 0x22 :: rest).length + 1 := by
    rw [List.length_append]
    omega
  obtain ⟨j, hj⟩ := readString_escaped s.toList hfuel rest index []
  have hback : Utf8.toStringLossy (encode s.toList) = s := Utf8.toStringLossy_ofString s
  refine ⟨j, ?_⟩
  rw [readText, hj]
  simp [Except.map, hback]

end ServerLink.Json
