import ServerLink.Proofs.Path.Absolute
import ServerLink.Proofs.Text.Blank
import ServerLink.Proofs.Text.Utf8
import ServerLink.Url

/-!
# Addresses of files

Two grammars meet in the address of a file.  One says which bytes of a path are escaped, the other
which characters an identifier may hold.

* `Escape.undo_bytes` — escapes are undone, whatever the set, as long as `%` is in it.
* `Url.ofFile?_eq` — the address of an absolute path escapes the bytes of its plain spelling.
* `Url.isRefused` — the four bytes that one grammar lets through and the other refuses.
* **`Url.identifier?_ofFile?`** — the address is an identifier just if the path has none of them.
* **`Url.fileText_eq_append_iff`** — the address of a file begins with that of a directory, and goes
  on with the way from there, just if the directory is the one in which the file is.
-/

namespace ServerLink

/-! ## Escapes -/

namespace Escape

variable {set : Set} {b : UInt8}

lemma hexDigit_spec : ∀ n < 16, (hexDigit n).toNat < 0x80 ∧
    hexValue? (hexDigit n).toNat.toUInt8 = some n ∧ Uri.isHex (hexDigit n) = true := by
  decide

/-- A byte that is not escaped is a character of ASCII outside the set. -/
lemma of_isEscaped_eq_false (h : isEscaped set b = false) :
    b.toNat < 0x7F ∧ Char.ofNat b.toNat ∉ set := by
  simp only [isEscaped, Bool.or_eq_false_iff, decide_eq_false_iff_not, List.contains_eq_mem] at h
  exact ⟨by simpa [UInt8.le_iff_toNat_le] using h.1.2, h.2⟩

lemma toNat_ofNat_of_lt {n : ℕ} (h : n < 0x80) : (Char.ofNat n).toNat = n := by
  rw [Char.toNat_ofNat, if_pos (.inl (by omega))]

lemma undo_cons (h : b ≠ 0x25) (rest : Bytes) : undo (b :: rest) = b :: undo rest := by
  match rest with
  | [] | [_] => rfl
  | _ :: _ :: _ => rw [undo, if_neg h]

/-- An escaped byte is found again. -/
lemma undo_byte (hset : '%' ∈ set) (b : UInt8) (rest : Bytes) :
    undo (Utf8.encode (byte set b) ++ rest) = b :: undo rest := by
  have hb : b.toNat < 256 := b.toNat_lt
  rw [byte]
  split_ifs with h
  · obtain ⟨hhigh, hvalueHigh, -⟩ := hexDigit_spec (b.toNat / 16) (by omega)
    obtain ⟨hlow, hvalueLow, -⟩ := hexDigit_spec (b.toNat % 16) (by omega)
    have hpercent : Utf8.encodeChar '%' = [0x25] := rfl
    simp only [Utf8.encode_cons, Utf8.encode_nil, Utf8.encodeChar_ascii hhigh,
      Utf8.encodeChar_ascii hlow, hpercent, List.cons_append, List.nil_append]
    rw [undo, if_pos rfl, hvalueHigh, hvalueLow]
    have hwhole : b.toNat / 16 * 16 + b.toNat % 16 = b.toNat := by omega
    simp [hwhole]
  · obtain ⟨hlt, hnot⟩ := of_isEscaped_eq_false (Bool.eq_false_iff.2 h)
    have hascii : (Char.ofNat b.toNat).toNat = b.toNat := toNat_ofNat_of_lt (by omega)
    have hne : b ≠ 0x25 := fun hb => hnot (by rw [hb]; exact hset)
    rw [Utf8.encode_cons, Utf8.encode_nil, Utf8.encodeChar_ascii (by omega), hascii]
    simpa using undo_cons hne rest

/-- **Escapes are undone.** -/
lemma undo_bytes (hset : '%' ∈ set) (bs rest : Bytes) :
    undo (Utf8.encode (bytes set bs) ++ rest) = bs ++ undo rest := by
  induction bs with
  | nil => rfl
  | cons b bs ih =>
    rw [bytes, List.flatMap_cons, Utf8.encode_append, List.append_assoc, undo_byte hset, ← bytes,
      ih, List.cons_append]

/-- Only escaped characters stand in an escaped text. -/
lemma notMem_bytes {c : Char} (hc : c ∈ set) (hhex : Uri.isHex c = false) (hpercent : c ≠ '%')
    (bs : Bytes) : c ∉ bytes set bs := by
  rw [bytes, List.mem_flatMap]
  rintro ⟨b, -, hmem⟩
  have hb : b.toNat < 256 := b.toNat_lt
  rw [byte] at hmem
  split_ifs at hmem with h
  · obtain ⟨-, -, hhigh⟩ := hexDigit_spec (b.toNat / 16) (by omega)
    obtain ⟨-, -, hlow⟩ := hexDigit_spec (b.toNat % 16) (by omega)
    simp only [List.mem_cons, List.not_mem_nil, or_false] at hmem
    rcases hmem with rfl | rfl | rfl
    · exact hpercent rfl
    · rw [hhigh] at hhex
      cases hhex
    · rw [hlow] at hhex
      cases hhex
  · rw [List.mem_singleton.1 hmem] at hc
    exact (of_isEscaped_eq_false (Bool.eq_false_iff.2 h)).2 hc

lemma allEscaped_cons {allowed : Char → Bool} {c : Char} (h : c ≠ '%') (rest : List Char) :
    Uri.allEscaped allowed (c :: rest) = (allowed c && Uri.allEscaped allowed rest) := by
  rw [Uri.allEscaped]
  rintro a b more rfl
  exact absurd rfl h

/-- An escaped text is allowed when what it leaves as it is is. -/
lemma allEscaped_bytes (allowed : Char → Bool) (hset : '%' ∈ set) (bs : Bytes) :
    Uri.allEscaped allowed (bytes set bs) =
      bs.all fun b => isEscaped set b || allowed (Char.ofNat b.toNat) := by
  induction bs with
  | nil => rfl
  | cons b bs ih =>
    have hb : b.toNat < 256 := b.toNat_lt
    rw [bytes, List.flatMap_cons, ← bytes, List.all_cons, ← ih, byte]
    cases h : isEscaped set b with
    | true =>
      obtain ⟨-, -, hhigh⟩ := hexDigit_spec (b.toNat / 16) (by omega)
      obtain ⟨-, -, hlow⟩ := hexDigit_spec (b.toNat % 16) (by omega)
      simp [Uri.allEscaped, hhigh, hlow]
    | false =>
      have hne : Char.ofNat b.toNat ≠ '%' := fun hc => (of_isEscaped_eq_false h).2 (hc ▸ hset)
      simp [allEscaped_cons hne]

end Escape

/-! ## Identifiers -/

namespace Url

variable {p : Path}

/-- The characters that are escaped in the path of a file, slashes apart. -/
def ofPath : Escape.Set := Escape.path ++ ['%', '\\']

lemma percent_mem : '%' ∈ ofPath := by decide

lemma hash_mem : '#' ∈ ofPath := by decide

lemma mark_mem : '?' ∈ ofPath := by decide

/-- The bytes that no escape covers and no identifier holds. -/
def isRefused (b : UInt8) : Bool := b = 0x5B || b = 0x5D || b = 0x5E || b = 0x7C

lemma byte_segment : ∀ n < 256, n.toUInt8 ≠ Path.slash →
    Escape.byte Escape.segment n.toUInt8 = Escape.byte ofPath n.toUInt8 := by
  decide +kernel

lemma isPathChar_or_isEscaped : ∀ n < 256,
    (Escape.isEscaped ofPath n.toUInt8 || Uri.isPathChar (Char.ofNat n))
      = !isRefused n.toUInt8 := by
  decide +kernel

lemma bytes_segment {n : Bytes} (h : Path.slash ∉ n) :
    Escape.bytes Escape.segment n = Escape.bytes ofPath n := by
  refine List.flatMap_congr fun b hb => ?_
  have htable := byte_segment b.toNat b.toNat_lt
  rw [Nat.toUInt8_eq, UInt8.ofNat_toNat] at htable
  exact htable fun hslash => h (hslash ▸ hb)

/-- Slashes stay as they are. -/
lemma bytes_glue {names : List Bytes} (h : ∀ n ∈ names, Path.slash ∉ n) :
    List.intercalate ['/'] (names.map (Escape.bytes Escape.segment)) =
      Escape.bytes ofPath (Path.glue names) := by
  induction names with
  | nil => rfl
  | cons n names ih =>
    cases names with
    | nil => simpa [Path.glue, List.intercalate] using bytes_segment (h n (by simp))
    | cons m names =>
      have hrest := ih fun k hk => h k (List.mem_cons_of_mem _ hk)
      have hslash : Escape.byte ofPath Path.slash = ['/'] := rfl
      rw [Path.glue_cons_cons, Escape.bytes, List.flatMap_append, List.flatMap_cons, hslash,
        ← Escape.bytes, ← Escape.bytes, ← hrest, ← bytes_segment (h n (by simp))]
      simp [List.intercalate]

/-- **The address of an absolute path** escapes its plain spelling. -/
lemma ofFile?_eq (h : p.isAbsolute = true) :
    ofFile? p = some
      { scheme := "file".toList, authority := some []
        path := Escape.bytes ofPath p.plain.bytes, query := none, fragment := none } := by
  have hslash : Escape.byte ofPath Path.slash = ['/'] := rfl
  rw [ofFile?, if_pos h, Path.plain, Escape.bytes, List.flatMap_cons, hslash, ← Escape.bytes,
    ← bytes_glue fun n hn => (Path.mem_steps h hn).2, Path.steps, List.map_map]
  rfl

lemma bytes_append (a b : Bytes) :
    Escape.bytes ofPath (a ++ b) = Escape.bytes ofPath a ++ Escape.bytes ofPath b :=
      List.flatMap_append

lemma slash_notMem_bytes {n : Bytes} (h : Path.slash ∉ n) : '/' ∉ Escape.bytes ofPath n := by
  rw [← bytes_segment h]
  exact Escape.notMem_bytes (by decide) (by decide) (by decide) n

lemma bytes_ne_nil {n : Bytes} (h : n ≠ []) : Escape.bytes ofPath n ≠ [] := by
  obtain ⟨b, n, rfl⟩ := List.exists_cons_of_ne_nil h
  rw [Escape.bytes, List.flatMap_cons, Escape.byte]
  split_ifs <;> simp

lemma bytes_injective : Function.Injective (Escape.bytes ofPath) := fun a b h => by
  have hundo : Escape.undo (Utf8.encode (Escape.bytes ofPath a) ++ []) =
      Escape.undo (Utf8.encode (Escape.bytes ofPath b) ++ []) := by rw [h]
  rw [Escape.undo_bytes percent_mem, Escape.undo_bytes percent_mem] at hundo
  exact List.append_cancel_right hundo

/-- **The address of a directory** has a slash behind each name. -/
lemma ofDirectory?_eq (h : p.isAbsolute = true) :
    ofDirectory? p = some
      { scheme := "file".toList, authority := some []
        path := Escape.bytes ofPath (Path.slash :: Path.within p.steps)
        query := none, fragment := none } := by
  have hslash : Escape.bytes ofPath [Path.slash] = ['/'] := rfl
  rw [ofDirectory?, ofFile?_eq h, Option.map_some, Path.plain]
  rcases List.eq_nil_or_concat p.steps with hnil | ⟨front, last, hsteps⟩
  · rw [hnil]
    rfl
  rw [List.concat_eq_append] at hsteps
  obtain ⟨hlast, hnot⟩ := Path.mem_steps h (n := last) (by simp [hsteps])
  have hglue : Path.slash :: Path.glue p.steps = (Path.slash :: Path.within front) ++ last := by
    rw [hsteps, Path.glue_append (by simp)]
    simp [Path.glue, List.intercalate]
  have hwithin : Path.slash :: Path.within p.steps
      = Path.slash :: Path.glue p.steps ++ [Path.slash] := by
    rw [hglue, hsteps]
    simp [Path.within]
  have hend : (Escape.bytes ofPath (Path.slash :: Path.glue p.steps)).getLast? ≠ some '/' := by
    rw [hglue, bytes_append, List.getLast?_append_of_ne_nil _ (bytes_ne_nil hlast)]
    exact fun hc => slash_notMem_bytes hnot (List.mem_of_getLast? hc)
  rw [if_neg hend, hwithin, bytes_append, hslash]

lemma cut_of_notMem {sep : Char} {cs : List Char} (h : sep ∉ cs) : Uri.cut sep cs = (cs, none) := by
  rw [Uri.cut, Text.splitAtFirst_of_notMem h]

/-- An address with nothing but a scheme and a path from the root is judged by its path. -/
lemma isWellFormed_file {path : List Char} (hpath : path.head? = some '/') (hfragment : '#' ∉ path)
    (hquery : '?' ∉ path) :
    Uri.isWellFormed ("file://".toList ++ path) = Uri.allEscaped Uri.isPathChar path := by
  obtain ⟨rest, rfl⟩ : ∃ rest, path = '/' :: rest := by
    cases path with
    | nil => cases hpath
    | cons c rest => exact ⟨rest, by rw [Option.some.inj hpath]⟩
  have hscheme : Text.splitAtFirst ':' ("file://".toList ++ '/' :: rest) =
      some ("file".toList, "//".toList ++ '/' :: rest) :=
    Text.splitAtFirst_eq_some_iff.2 ⟨rfl, by decide⟩
  have hauthority : Uri.isAuthority [] = true := by decide
  rw [Uri.isWellFormed, cut_of_notMem (by simpa using hfragment)]
  simp only
  rw [cut_of_notMem (by simpa using hquery)]
  have hfile : Uri.isScheme "file".toList = true := by decide
  have hplace : Uri.isHierarchy ("//".toList ++ '/' :: rest) =
      Uri.allEscaped Uri.isPathChar ('/' :: rest) := by
    simp [Uri.isHierarchy, hauthority]
  simp only [hscheme, hfile, hplace]
  simp

/-- What is left as it is may stand in an identifier, but for the bytes that are refused. -/
lemma all_plain (h : p.isAbsolute = true) :
    (p.plain.bytes.all fun b => Escape.isEscaped ofPath b || Uri.isPathChar (Char.ofNat b.toNat)) =
      !p.bytes.any isRefused := by
  have htable : ∀ b : UInt8, (Escape.isEscaped ofPath b || Uri.isPathChar (Char.ofNat b.toNat)) =
      !isRefused b := fun b => by
    simpa using isPathChar_or_isEscaped b.toNat b.toNat_lt
  have hrefused : ∀ b, isRefused b = true → (b ∈ p.plain.bytes ↔ b ∈ p.bytes) := fun b hb => by
    refine Path.mem_plain_iff h ?_ ?_ <;> rintro rfl <;> cases hb
  rw [funext htable, Bool.eq_iff_iff, List.all_eq_true, Bool.not_eq_true', List.any_eq_false]
  constructor
  · intro hall b hb hbad
    have := hall b ((hrefused b hbad).2 hb)
    rw [hbad] at this
    cases this
  · intro hnone b hb
    rw [Bool.not_eq_true', Bool.eq_false_iff]
    exact fun hbad => hnone b ((hrefused b hbad).1 hb) hbad

lemma chars_file (path : List Char) :
    chars { scheme := "file".toList, authority := some [], path, query := none, fragment := none } =
      "file://".toList ++ path := by
  simp [chars, marked]

/-- The text of the address of an absolute path. -/
def fileText (p : Path) : List Char := "file://".toList ++ Escape.bytes ofPath p.plain.bytes

/-- **The address of a path is an identifier** just if the path is absolute and has no byte that is
refused. -/
theorem identifier?_ofFile? (p : Path) :
    (ofFile? p).bind identifier? =
      if p.isAbsolute && !p.bytes.any isRefused then some (String.ofList (fileText p))
        else none := by
  cases h : p.isAbsolute with
  | false => simp [ofFile?, h]
  | true =>
    have hslash : Escape.byte ofPath Path.slash = ['/'] := rfl
    have hhead : (Escape.bytes ofPath p.plain.bytes).head? = some '/' := by
      rw [Path.plain, Escape.bytes, List.flatMap_cons, hslash]
      rfl
    have hhash : '#' ∉ Escape.bytes ofPath p.plain.bytes :=
      Escape.notMem_bytes hash_mem (by decide) (by decide) _
    have hmark : '?' ∉ Escape.bytes ofPath p.plain.bytes :=
      Escape.notMem_bytes mark_mem (by decide) (by decide) _
    have hwell : Uri.isWellFormed (fileText p) = !p.bytes.any isRefused :=
      (isWellFormed_file hhead hhash hmark).trans
        ((Escape.allEscaped_bytes _ percent_mem _).trans (all_plain h))
    have htext : identifier? { scheme := "file".toList, authority := some []
                               path := Escape.bytes ofPath p.plain.bytes
                               query := none, fragment := none } =
        if Uri.isWellFormed (fileText p) then some (String.ofList (fileText p)) else none := by
      simp only [identifier?, text, chars_file]
      rfl
    simp only [ofFile?_eq h, Option.bind_some, htext, hwell, Bool.true_and]

/-! ## Directories -/

/-- The text of the address of an absolute path as a directory. -/
def directoryText (p : Path) : List Char :=
  "file://".toList ++ Escape.bytes ofPath (Path.slash :: Path.within p.steps)

lemma chars_of_ofDirectory? {u : Url} (h : p.isAbsolute = true) (hu : ofDirectory? p = some u) :
    u.chars = directoryText p := by
  rw [ofDirectory?_eq h, Option.some.injEq] at hu
  rw [← hu, chars_file]
  rfl

/-- **The address of what is below a directory** is the address of a directory with the way behind
it just if the two directories are one. -/
theorem fileText_eq_append_iff {root q : Path} {names : List Bytes} (hp : p.isAbsolute = true)
    (hroot : root.isAbsolute = true) (hq : q.components = p.components ++ names.map .name) :
    fileText q = directoryText root ++ Escape.bytes ofPath (Path.glue names) ↔
      p.components = root.components ∧ (names ≠ [] ∨ p.components = [.root]) := by
  have hsteps : q.steps = p.steps ++ names := by
    rw [Path.steps, hq, Path.components_of_isAbsolute hp]
    simp [Path.steps, Path.components_of_isAbsolute hp, Function.comp_def, Path.Component.bytes]
  have hwhole : p.steps = [] ↔ p.components = [.root] := by
    simp [Path.steps, Path.components_of_isAbsolute hp]
  have hcut : ∀ scheme a b c : List Char, scheme ++ a = scheme ++ b ++ c ↔ a = b ++ c :=
    fun scheme a b c => by rw [List.append_assoc, List.append_right_inj]
  refine (hcut _ _ _ _).trans ?_
  rw [Path.plain, ← bytes_append, bytes_injective.eq_iff, List.cons_append, List.cons_inj_right,
    hsteps, Path.glue_append_eq_iff (fun n hn => Path.mem_steps hp hn)
      (fun n hn => (Path.mem_steps hroot hn).2), Path.steps_inj hp hroot, hwhole]

end Url

end ServerLink
