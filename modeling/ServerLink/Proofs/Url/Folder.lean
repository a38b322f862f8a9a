import Mathlib
import ServerLink.Proofs.Path.Name
import ServerLink.Proofs.Text.Blank
import ServerLink.Proofs.Url.Files

/-!
# The name of a folder in its address

A folder is announced under the last segment of its address that is not empty, as the segment stands
there: with its escapes.

* `Escape.Keeps`, **`Escape.bytes_encode_eq_iff`** — a text is its own escaped form just if none of
  its characters has an escape.
* `segments?_ofDirectory?` — the segments of the address of a directory are its steps, escaped, and
  an empty one.
* **`folderName_ofDirectory?`** — the name is the last step, escaped; the root has no step and goes
  by its address.
-/

namespace ServerLink

/-! ## Characters without an escape -/

namespace Escape

variable {set : Set} {b : UInt8} {cs : List Char}

/-- A character that an escaped text has as it is. -/
def Keeps (set : Set) (c : Char) : Prop := 0x20 ≤ c.toNat ∧ c.toNat < 0x7F ∧ c ∉ set

lemma isEscaped_eq_false_iff :
    isEscaped set b = false ↔ 0x20 ≤ b.toNat ∧ b.toNat < 0x7F ∧ Char.ofNat b.toNat ∉ set := by
  simp [isEscaped, UInt8.lt_iff_toNat_lt, UInt8.le_iff_toNat_le, and_assoc]

/-- Each escape takes two characters more. -/
lemma length_bytes (set : Set) (bs : Bytes) :
    (bytes set bs).length = bs.length + 2 * bs.countP (isEscaped set) := by
  induction bs with
  | nil => rfl
  | cons b bs ih =>
    rw [bytes, List.flatMap_cons, ← bytes, List.length_append, ih, List.countP_cons,
      List.length_cons, byte]
    cases isEscaped set b with
    | true => simp; omega
    | false => simp; omega

/-- A character whose bytes all stay as they are is one byte of ASCII. -/
lemma keeps_of_encodeChar {c : Char} (h : ∀ b ∈ Utf8.encodeChar c, isEscaped set b = false) :
    Keeps set c := by
  obtain ⟨b, hb⟩ := List.exists_mem_of_ne_nil _ (Utf8.encodeChar_ne_nil c)
  obtain ⟨hlow, hhigh, hset⟩ := isEscaped_eq_false_iff.1 (h b hb)
  have hmark : Utf8.Mark b := ⟨by omega, by omega⟩
  rw [Keeps, (Utf8.mem_encodeChar_iff hmark).1 hb, hmark.toNat_char]
  exact ⟨hlow, hhigh, hset⟩

lemma bytes_encode_cons {c : Char} (h : Keeps set c) (cs : List Char) :
    bytes set (Utf8.encode (c :: cs)) = c :: bytes set (Utf8.encode cs) := by
  obtain ⟨hlow, hhigh, hset⟩ := h
  have hnat : c.toNat.toUInt8.toNat = c.toNat := Utf8.toNat_toUInt8 (by omega)
  have hkept : isEscaped set c.toNat.toUInt8 = false := by
    rw [isEscaped_eq_false_iff, hnat, Char.ofNat_toNat]
    exact ⟨hlow, hhigh, hset⟩
  rw [Utf8.encode_cons, Utf8.encodeChar_ascii (by omega), List.singleton_append, bytes,
    List.flatMap_cons, ← bytes, byte, hkept, if_neg (by simp), hnat, Char.ofNat_toNat,
    List.singleton_append]

/-- **A text is its own escaped form** just if none of its characters has an escape. -/
theorem bytes_encode_eq_iff : bytes set (Utf8.encode cs) = cs ↔ ∀ c ∈ cs, Keeps set c := by
  constructor
  · intro h
    -- with an escape there would be more characters than bytes
    have hnone : (Utf8.encode cs).countP (isEscaped set) = 0 := by
      have hescaped := length_bytes set (Utf8.encode cs)
      have hbytes := Utf8.length_le_encode cs
      rw [h] at hescaped
      omega
    intro c hc
    refine keeps_of_encodeChar fun b hb => Bool.eq_false_iff.2 fun hescaped => ?_
    exact List.countP_eq_zero.1 hnone b (List.mem_flatMap.2 ⟨c, hc, hb⟩) hescaped
  · intro h
    induction cs with
    | nil => rfl
    | cons c cs ih =>
      obtain ⟨hc, hcs⟩ := List.forall_mem_cons.1 h
      rw [bytes_encode_cons hc, ih hcs]

end Escape

/-! ## The last segment -/

namespace Url

variable {p : Path} {u : Url}

lemma bytes_slash_cons (bs : Bytes) :
    Escape.bytes ofPath (Path.slash :: bs) = '/' :: Escape.bytes ofPath bs := rfl

lemma splitOn_within {names : List Bytes} (h : ∀ n ∈ names, Path.slash ∉ n) :
    Text.splitOn '/' (Escape.bytes ofPath (Path.within names))
      = names.map (Escape.bytes ofPath) ++ [[]] := by
  induction names with
  | nil => rfl
  | cons n names ih =>
    obtain ⟨hn, hnames⟩ := List.forall_mem_cons.1 h
    rw [Path.within_cons, bytes_append, bytes_slash_cons,
      Text.splitOn_append_cons (slash_notMem_bytes hn), ih hnames, List.map_cons, List.cons_append]

/-- **The segments of a directory** are its steps, with nothing behind the last slash. -/
lemma segments?_ofDirectory? (h : p.isAbsolute = true) (hu : ofDirectory? p = some u) :
    u.segments? = some (p.steps.map (Escape.bytes ofPath) ++ [[]]) := by
  rw [ofDirectory?_eq h, Option.some.injEq] at hu
  rw [← hu, segments?, hasSegments, if_pos (by simp), bytes_slash_cons, List.drop_one,
    List.tail_cons, splitOn_within fun n hn => (Path.mem_steps h hn).2]

/-- **A folder goes by its last step**, escaped. -/
theorem folderName_ofDirectory? (h : p.isAbsolute = true) (hu : ofDirectory? p = some u) :
    u.folderName = match p.steps.getLast? with
      | some n => String.ofList (Escape.bytes ofPath n)
      | none => u.text := by
  rw [folderName, segments?_ofDirectory? h hu]
  rcases List.eq_nil_or_concat p.steps with hnil | ⟨front, last, hsteps⟩
  · simp [hnil]
  · rw [List.concat_eq_append] at hsteps
    have hlast : Escape.bytes ofPath last ≠ [] :=
      bytes_ne_nil (Path.mem_steps h (n := last) (by simp [hsteps])).1
    simp [hsteps, hlast]

end Url

end ServerLink
