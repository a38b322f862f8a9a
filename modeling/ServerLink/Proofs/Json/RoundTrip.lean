import Mathlib
import ServerLink.Json.Writer
import ServerLink.Proofs.Json.Order
import ServerLink.Proofs.Json.Strings

/-!
# Values survive being written

What is written for a value is read as that value, with the fields of its objects in order.

* `arrange` — the value with the fields of all its objects in order; `arrange_of_ordered`.
* `Legible` — whole numbers in 64 bits, and other numbers that are read from their own text as
  themselves.  Nothing else can go wrong but too deep a nesting, `depth`; a value that was read is
  never nested too deep (`depth_of_parse`).
* `Yields` — the reader makes a value of a text, in front of anything that does not continue a
  number; one lemma for each kind of value, those for lists and objects by `glued` pieces.
* **`parse_write`** — the round trip.
-/

namespace ServerLink.Json

open Utf8 (encode ofString)

/-! ## Values in order -/

mutual
/-- The value with the fields of all its objects in order. -/
def arrange : Json → Json
  | .arr items => .arr (arrangeItems items)
  | .obj fields => ofFields (arrangeFields fields)
  | v => v
/-- The items with the fields of all objects in order. -/
def arrangeItems : List Json → List Json
  | [] => []
  | v :: rest => arrange v :: arrangeItems rest
/-- The fields where they stand, with those of all objects in them in order. -/
def arrangeFields : List (String × Json) → List (String × Json)
  | [] => []
  | (n, v) :: rest => (n, arrange v) :: arrangeFields rest
end

lemma map_fst_arrangeFields (fields : List (String × Json)) :
    (arrangeFields fields).map Prod.fst = fields.map Prod.fst := by
  induction fields with
  | nil => rfl
  | cons f fields ih => rw [arrangeFields, List.map_cons, ih, List.map_cons]

lemma lookup_arrangeFields (fields : List (String × Json)) (m : String) :
    (arrangeFields fields).lookup m = (fields.lookup m).map arrange := by
  induction fields with
  | nil => rfl
  | cons f fields ih =>
    rw [arrangeFields, List.lookup_cons, List.lookup_cons, ih]
    cases m == f.1 <;> rfl

/-- A field of an object in order, where no name stands twice. -/
lemma field?_arrange {fields : List (String × Json)} (h : (fields.map Prod.fst).Nodup)
    (m : String) : (arrange (.obj fields)).field? m = (fields.lookup m).map arrange := by
  rw [arrange, field?_ofFields (by rwa [map_fst_arrangeFields]), lookup_arrangeFields]

mutual
/-- A value in order stays as it is. -/
theorem arrange_of_ordered : ∀ {v : Json}, Ordered v → arrange v = v
  | .null, _ | .bool _, _ | .int _, _ | .real _, _ | .str _, _ => rfl
  | .arr items, h => by
    rw [arrange, arrangeItems_of_ordered (everywhere_arr.1 h).2]
  | .obj fields, h => by
    obtain ⟨hascending, hvalues⟩ := everywhere_obj.1 h
    rw [arrange, arrangeFields_of_ordered hvalues, ofFields_eq, arranged_of_ascending hascending]
theorem arrangeItems_of_ordered :
    ∀ {items : List Json}, (∀ v ∈ items, Ordered v) → arrangeItems items = items
  | [], _ => rfl
  | v :: items, h => by
    rw [arrangeItems, arrange_of_ordered (h v (by simp)),
      arrangeItems_of_ordered fun w hw => h w (by simp [hw])]
theorem arrangeFields_of_ordered :
    ∀ {fields : List (String × Json)}, (∀ f ∈ fields, Ordered f.2) → arrangeFields fields = fields
  | [], _ => rfl
  | (n, v) :: fields, h => by
    rw [arrangeFields, arrange_of_ordered (h (n, v) (by simp)),
      arrangeFields_of_ordered fun f hf => h f (by simp [hf])]
end

/-! ## What can be read back -/

mutual
/-- How deep lists and objects are nested in a value. -/
def depth : Json → Nat
  | .arr items => depthItems items + 1
  | .obj fields => depthFields fields + 1
  | _ => 0
/-- How deep lists and objects are nested in items. -/
def depthItems : List Json → Nat
  | [] => 0
  | v :: rest => max (depth v) (depthItems rest)
/-- How deep lists and objects are nested in the values of fields. -/
def depthFields : List (String × Json) → Nat
  | [] => 0
  | (_, v) :: rest => max (depth v) (depthFields rest)
end

lemma depthItems_le_iff {items : List Json} {d : Nat} :
    depthItems items ≤ d ↔ ∀ v ∈ items, depth v ≤ d := by
  induction items with
  | nil => simp [depthItems]
  | cons v items ih => simp [depthItems, ih]

lemma depthFields_le_iff {fields : List (String × Json)} {d : Nat} :
    depthFields fields ≤ d ↔ ∀ f ∈ fields, depth f.2 ≤ d := by
  induction fields with
  | nil => simp [depthFields]
  | cons f fields ih => simp [depthFields, ih]

lemma hereditary_depth : Hereditary fun d v => v.depth ≤ d where
  null := Nat.zero_le _
  bool _ := Nat.zero_le _
  number h := by cases h <;> exact Nat.zero_le _
  str _ := Nat.zero_le _
  arr h := Nat.succ_le_succ (depthItems_le_iff.2 h)
  obj _ h := Nat.succ_le_succ (depthFields_le_iff.2 h)

/-- **A value that was read is not nested too deep.** -/
theorem depth_of_parse {text : String} {v : Json} (h : parse text = .ok v) :
    v.depth ≤ depthLimit :=
  hereditary_depth.of_parse h

/-- Whether a number can be read back: a whole one is kept in 64 bits, any other has to be read from
its own text as itself. -/
def IsLegible : Json → Prop
  | .int n => -Decimal.limit63 ≤ n ∧ n < Decimal.limit64
  | .real x => parse (write (.real x)) = .ok (.real x)
  | _ => True

lemma same_real_iff {v : Json} {x : Binary} : same v (.real x) = true ↔ v = .real x := by
  cases v <;> simp [same]

instance : DecidablePred IsLegible
  | .int n => inferInstanceAs (Decidable (-Decimal.limit63 ≤ n ∧ n < Decimal.limit64))
  | .real x =>
    decidable_of_iff ((parse (write (.real x))).toOption.any (same · (.real x)) = true) (by
      rw [IsLegible]
      cases parse (write (.real x)) <;> simp [Except.toOption, same_real_iff])
  | .null | .bool _ | .str _ | .arr _ | .obj _ => .isTrue trivial

/-- All numbers in a value can be read back. -/
def Legible : Json → Prop := Everywhere IsLegible

instance : DecidablePred Legible := fun v => inferInstanceAs (Decidable (Everywhere IsLegible v))

/-! ## Texts that yield a value -/

/-- Whether a byte is white space. -/
def isBlank (b : UInt8) : Bool := b == 0x20 || b == 0x0A || b == 0x09 || b == 0x0D

/-- Whether a byte can begin a value. -/
def opensValue (b : UInt8) : Bool := !isBlank b && b != 0x5D

/-- The text begins like a value, and in front of anything that does not continue a number the
reader makes the value of it. -/
structure Yields (depth : Nat) (text : Bytes) (v : Json) : Prop where
  opens : ∃ b rest, text = b :: rest ∧ opensValue b = true
  reads : ∀ fuel behind index, 2 * text.length ≤ fuel → Stops behind →
    ∃ j, readValue fuel depth ⟨text ++ behind, index⟩ = .ok (v, ⟨behind, j⟩)

variable {b : UInt8} {rest behind : Bytes} {index fuel depth : Nat}

lemma skipBlanks_cons (h : isBlank b = false) :
    Cursor.skipBlanks ⟨b :: rest, index⟩ = ⟨b :: rest, index⟩ := by
  rw [Cursor.skipBlanks, List.takeWhile_cons_of_neg (by simpa [isBlank] using h)]
  rfl

/-- A test that a byte passes tells it from all bytes that do not. -/
lemma beq_eq_false_of_test {test : UInt8 → Bool} (h : test b = true) {d : UInt8}
    (hd : test d = false) : (b == d) = false := by
  refine beq_eq_false_iff_ne.2 fun heq => ?_
  rw [heq, hd] at h
  cases h

lemma isBlank_of_continuesNumber (h : continuesNumber b = true) : isBlank b = false := by
  simp only [isBlank, Bool.or_eq_false_iff]
  exact ⟨⟨⟨beq_eq_false_of_test h (by decide), beq_eq_false_of_test h (by decide)⟩,
    beq_eq_false_of_test h (by decide)⟩, beq_eq_false_of_test h (by decide)⟩

lemma opensValue_of_continuesNumber (h : continuesNumber b = true) : opensValue b = true := by
  have hbracket : (b == 0x5D) = false := beq_eq_false_of_test h (by decide)
  simp [opensValue, bne, isBlank_of_continuesNumber h, hbracket]

lemma readValue_digit (h : isDigit b = true) :
    readValue (fuel + 1) depth ⟨b :: rest, index⟩ = readNumber true ⟨b :: rest, index⟩ := by
  have hblank := isBlank_of_continuesNumber (continuesNumber_of_isDigit h)
  have hother {d : UInt8} (hd : isDigit d = false) : (b == d) = false := beq_eq_false_of_test h hd
  have hn : (b == 0x6E) = false := hother (by decide)
  have ht : (b == 0x74) = false := hother (by decide)
  have hf : (b == 0x66) = false := hother (by decide)
  have hminus : (b == 0x2D) = false := hother (by decide)
  simp only [readValue, skipBlanks_cons hblank, hn, ht, hf, hminus, h, Bool.false_eq_true, if_false,
    if_true]

lemma readValue_minus :
    readValue (fuel + 1) depth ⟨0x2D :: rest, index⟩ = readNumber false ⟨rest, index + 1⟩ := rfl

lemma readValue_quote : readValue (fuel + 1) depth ⟨0x22 :: rest, index⟩
    = match readText ⟨rest, index + 1⟩ with
      | .ok (s, c) => .ok (.str s, c)
      | .error f => .error f := rfl

/-! ### Words and strings -/

lemma exists_succ {n m : Nat} (h : m ≤ n) (hm : 0 < m) : ∃ k, n = k + 1 := ⟨n - 1, by omega⟩

lemma yields_null : Yields depth [0x6E, 0x75, 0x6C, 0x6C] .null := by
  refine ⟨⟨_, _, rfl, by decide⟩, fun fuel behind index hfuel _ => ?_⟩
  obtain ⟨fuel, rfl⟩ := exists_succ hfuel (by simp)
  exact ⟨index + 4, rfl⟩

lemma yields_true : Yields depth [0x74, 0x72, 0x75, 0x65] (.bool true) := by
  refine ⟨⟨_, _, rfl, by decide⟩, fun fuel behind index hfuel _ => ?_⟩
  obtain ⟨fuel, rfl⟩ := exists_succ hfuel (by simp)
  exact ⟨index + 4, rfl⟩

lemma yields_false : Yields depth [0x66, 0x61, 0x6C, 0x73, 0x65] (.bool false) := by
  refine ⟨⟨_, _, rfl, by decide⟩, fun fuel behind index hfuel _ => ?_⟩
  obtain ⟨fuel, rfl⟩ := exists_succ hfuel (by simp)
  exact ⟨index + 5, rfl⟩

/-- A string as bytes: its characters as they are written, between quotes. -/
lemma ofString_writeString (s : String) :
    ofString (writeString s) = 0x22 :: (encode (s.toList.flatMap escapeChar) ++ [0x22]) := by
  rw [ofString, writeString, String.toList_ofList, Utf8.encode_cons, Utf8.encode_append]
  rfl

lemma yields_string (s : String) : Yields depth (ofString (writeString s)) (.str s) := by
  rw [ofString_writeString]
  refine ⟨⟨_, _, rfl, by decide⟩, fun fuel behind index hfuel _ => ?_⟩
  obtain ⟨fuel, rfl⟩ := exists_succ hfuel (by simp)
  obtain ⟨j, hj⟩ := readText_escaped s behind (index + 1)
  refine ⟨j, ?_⟩
  rw [List.cons_append, List.append_assoc, List.singleton_append, readValue_quote, hj]

/-! ### Numbers -/

lemma yields_nat {n : Nat} (h : n < Decimal.limit64) :
    Yields depth (encode (Nat.toDigits 10 n)) (.int n) := by
  cases hdigits : Nat.toDigits 10 n with
  | nil => exact absurd hdigits Nat.toDigits_ne_nil
  | cons ch cs =>
    have hdigit : ch.isDigit = true := Decimal.isDigit_toDigits n ch (by simp [hdigits])
    have hbyte := (isDigit_toUInt8 hdigit).1
    refine ⟨⟨_, _, encode_cons_digit hdigit cs,
      opensValue_of_continuesNumber (continuesNumber_of_isDigit hbyte)⟩, ?_⟩
    intro fuel behind index hfuel hstops
    obtain ⟨fuel, rfl⟩ := exists_succ hfuel (by simp [encode_cons_digit hdigit])
    obtain ⟨j, hj⟩ := readNumber_nat hstops h index
    refine ⟨j, ?_⟩
    rw [hdigits] at hj
    rw [encode_cons_digit hdigit, List.cons_append] at hj ⊢
    rw [readValue_digit hbyte, hj]

lemma yields_neg {n : Nat} (hpos : 0 < n) (h : n ≤ Decimal.limit63) :
    Yields depth (0x2D :: encode (Nat.toDigits 10 n)) (.int (-(n : Int))) := by
  refine ⟨⟨_, _, rfl, by decide⟩, fun fuel behind index hfuel hstops => ?_⟩
  obtain ⟨fuel, rfl⟩ := exists_succ hfuel (by simp)
  obtain ⟨j, hj⟩ := readNumber_neg hstops hpos h (index + 1)
  exact ⟨j, by rw [List.cons_append, readValue_minus, hj]⟩

lemma yields_int {n : Int} (h : IsLegible (.int n)) :
    Yields depth (ofString (Decimal.ofInt n)) (.int n) := by
  obtain ⟨hlow, hhigh⟩ := h
  cases n with
  | ofNat n =>
    rw [ofString, Decimal.ofInt, Decimal.ofNat, String.toList_ofList]
    exact yields_nat (by simpa using hhigh)
  | negSucc n =>
    have hsign : ofString (Decimal.ofInt (.negSucc n))
        = 0x2D :: encode (Nat.toDigits 10 (n + 1)) := by
      rw [Decimal.ofInt, Utf8.ofString_append, ofString, ofString, Decimal.ofNat,
        String.toList_ofList, String.toList_ofList]
      rfl
    rw [hsign, Int.negSucc_eq]
    exact yields_neg (by omega) (by omega)

lemma skipBlanks_eq_nil {c : Cursor} (hbytes : ∀ b ∈ c.rest, continuesNumber b = true)
    (h : c.skipBlanks.rest = []) : c.rest = [] := by
  obtain ⟨rest, index⟩ := c
  cases rest with
  | nil => rfl
  | cons b rest =>
    rw [skipBlanks_cons (isBlank_of_continuesNumber (hbytes b (by simp)))] at h
    cases h

/-- A number that was read to the end of its text is read in front of anything else. -/
lemma exists_readNumber_within {positive : Bool} {c c' : Cursor} {v : Json}
    (hbytes : ∀ b ∈ c.rest, continuesNumber b = true)
    (h : readNumber positive c = .ok (v, c')) (hend : c'.skipBlanks.rest = [])
    (hstops : Stops behind) (front : Nat) :
    ∃ j, readNumber positive (c.within front behind) = .ok (v, ⟨behind, j⟩) := by
  have hcarries : Carries front behind c (readNumber positive c)
      (readNumber positive (c.within front behind)) := carries_readNumber hstops positive
  obtain ⟨-, hleft, hlonger⟩ := hcarries v c' h
  have hempty : c'.rest = [] := skipBlanks_eq_nil (fun b hb => hbytes b (hleft.subset hb)) hend
  refine ⟨front + c'.index, ?_⟩
  rw [hlonger, Cursor.within, hempty, List.nil_append]

/-- A number that is read from its own text is read from it in front of anything else. -/
lemma yields_real {x : Binary} (h : IsLegible (.real x)) :
    Yields depth (ofString x.toText) (.real x) := by
  have hbytes := continuesNumber_toText x
  have hparse : parse x.toText = .ok (.real x) := h
  obtain ⟨c, hread, hend⟩ := readValue_of_parse hparse
  cases htext : ofString x.toText with
  | nil =>
    rw [htext] at hread
    cases hread
  | cons b rest =>
    rw [htext] at hread hbytes
    have hb := hbytes b (by simp)
    refine ⟨⟨b, rest, rfl, opensValue_of_continuesNumber hb⟩, ?_⟩
    intro fuel behind index hfuel hstops
    obtain ⟨fuel, rfl⟩ := exists_succ hfuel (by simp)
    by_cases hdigit : isDigit b = true
    · rw [readValue_digit hdigit] at hread
      obtain ⟨j, hj⟩ := exists_readNumber_within hbytes hread hend hstops index
      exact ⟨j, by rw [List.cons_append, readValue_digit hdigit]; exact hj⟩
    by_cases hminus : b = 0x2D
    · subst hminus
      rw [readValue_minus] at hread
      obtain ⟨j, hj⟩ := exists_readNumber_within (fun d hd => hbytes d (by simp [hd])) hread hend
        hstops index
      exact ⟨j, by rw [List.cons_append, readValue_minus]; exact hj⟩
    · -- no other byte of a number begins a value, so the text would not have been read
      simp only [continuesNumber, opensExponent, Bool.or_eq_true, beq_iff_eq, hdigit, hminus,
        or_false, Bool.false_eq_true, false_or] at hb
      rcases hb with ((rfl | rfl) | rfl) | rfl <;> cases hread

/-! ### Lists and objects -/

/-- What stands in front of a piece: nothing where it comes first, or else a comma. -/
def lead (isFirst : Bool) : Bytes := if isFirst then [] else [0x2C]

/-- Pieces with what stands in front of each. -/
def glued : (isFirst : Bool) → List Bytes → Bytes
  | _, [] => []
  | isFirst, piece :: rest => lead isFirst ++ piece ++ glued false rest

lemma length_glued_cons (isFirst : Bool) (piece : Bytes) (pieces : List Bytes) :
    piece.length + (glued false pieces).length ≤ (glued isFirst (piece :: pieces)).length := by
  rw [glued, List.length_append, List.length_append]
  omega

lemma ofString_intercalate_cons (piece : String) (pieces : List String) :
    ofString (",".intercalate (piece :: pieces))
      = ofString piece ++ glued false (pieces.map ofString) := by
  induction pieces generalizing piece with
  | nil => simp [glued]
  | cons next pieces ih =>
    rw [String.intercalate_cons_cons, Utf8.ofString_append, Utf8.ofString_append, ih,
      List.map_cons, glued, List.append_assoc]
    rfl

lemma ofString_bracketed (opening closing : String) (pieces : List String) :
    ofString (bracketed opening closing pieces)
      = ofString opening ++ (glued true (pieces.map ofString) ++ ofString closing) := by
  rw [bracketed, Utf8.ofString_append, Utf8.ofString_append, List.append_assoc]
  cases pieces with
  | nil => rfl
  | cons piece pieces =>
    rw [ofString_intercalate_cons, List.map_cons, glued]
    rfl

/-- What stands behind a piece does not continue a number: a comma or the closing bracket. -/
lemma stops_glued {closing : UInt8} (h : continuesNumber closing = false) (pieces : List Bytes) :
    Stops (glued false pieces ++ closing :: behind) := by
  cases pieces with
  | nil => exact stops_cons h
  | cons piece pieces => exact stops_cons (by decide)

/-- The reader finds an item behind its comma. -/
lemma nextItem_lead (h : opensValue b = true) (isFirst : Bool) (rest : Bytes) (index : Nat) :
    ∃ j, nextItem isFirst ⟨lead isFirst ++ b :: rest, index⟩ = .ok (true, ⟨b :: rest, j⟩) := by
  simp only [opensValue, bne, Bool.and_eq_true, Bool.not_eq_true'] at h
  cases isFirst with
  | true =>
    refine ⟨index, ?_⟩
    simp only [nextItem, lead, if_true, List.nil_append, skipBlanks_cons h.1, h.2,
      Bool.false_eq_true, if_false]
  | false =>
    have hcomma : Cursor.skipBlanks ⟨0x2C :: b :: rest, index⟩ = ⟨0x2C :: b :: rest, index⟩ :=
      skipBlanks_cons (by decide)
    have hskip : Cursor.skip ⟨0x2C :: b :: rest, index⟩ 1 = ⟨b :: rest, index + 1⟩ := rfl
    refine ⟨index + 1, ?_⟩
    simp only [nextItem, lead, Bool.false_eq_true, if_false, List.singleton_append, hcomma, hskip,
      skipBlanks_cons h.1, h.2]
    rfl

/-- The reader finds a field behind its comma. -/
lemma nextField_lead (isFirst : Bool) (rest : Bytes) (index : Nat) :
    ∃ j, nextField isFirst ⟨lead isFirst ++ 0x22 :: rest, index⟩
      = .ok (true, ⟨0x22 :: rest, j⟩) := by
  cases isFirst with
  | true => exact ⟨index, rfl⟩
  | false => exact ⟨index + 1, rfl⟩

lemma Yields.length_pos {text : Bytes} {v : Json} (h : Yields depth text v) : 0 < text.length := by
  obtain ⟨b, rest, rfl, -⟩ := h.opens
  simp

/-- An item is read up to what stands behind it. -/
lemma readItems_lead {text : Bytes} {v : Json} (hv : Yields depth text v)
    (hfuel : 2 * text.length ≤ fuel) (hstops : Stops behind) (isFirst : Bool) (index : Nat)
    (read : List Json) :
    ∃ j, readItems (fuel + 1) depth isFirst ⟨lead isFirst ++ (text ++ behind), index⟩ read
      = readItems fuel depth false ⟨behind, j⟩ (v :: read) := by
  obtain ⟨b, rest, rfl, hopens⟩ := hv.opens
  obtain ⟨j, hj⟩ := nextItem_lead hopens isFirst (rest ++ behind) index
  obtain ⟨k, hk⟩ := hv.reads fuel behind j hfuel hstops
  refine ⟨k, ?_⟩
  rw [List.cons_append] at hk ⊢
  simp only [readItems, hj, hk]

/-- The items of a list are read one after the other. -/
lemma readItems_glued {texts : List Bytes} {items : List Json}
    (h : List.Forall₂ (Yields depth) texts items) (isFirst : Bool) (read : List Json)
    (hfuel : 2 * (glued isFirst texts).length + 1 ≤ fuel) (behind : Bytes) (index : Nat) :
    ∃ j, readItems fuel depth isFirst ⟨glued isFirst texts ++ 0x5D :: behind, index⟩ read
      = .ok (.arr (read.reverse ++ items), ⟨behind, j⟩) := by
  induction h generalizing fuel isFirst read index with
  | nil =>
    obtain ⟨fuel, rfl⟩ := exists_succ hfuel (by omega)
    exact ⟨index + 1, by rw [List.append_nil]; rfl⟩
  | @cons text v texts items hv _ ih =>
    obtain ⟨fuel, rfl⟩ := exists_succ hfuel (by omega)
    have hlength := length_glued_cons isFirst text texts
    have hpositive := hv.length_pos
    have hvalue : 2 * text.length ≤ fuel := by omega
    have hmore : 2 * (glued false texts).length + 1 ≤ fuel := by omega
    have hstops : Stops (glued false texts ++ 0x5D :: behind) := stops_glued (by decide) texts
    obtain ⟨j, hj⟩ := readItems_lead hv hvalue hstops isFirst index read
    obtain ⟨k, hk⟩ := ih false (v :: read) hmore j
    refine ⟨k, ?_⟩
    rw [glued, List.append_assoc, List.append_assoc, hj, hk]
    simp

/-- The text of a field: its name, a colon, and a text that yields its value. -/
def YieldsField (depth : Nat) (piece : Bytes) (f : String × Json) : Prop :=
  ∃ text, piece = ofString (writeString f.1) ++ 0x3A :: text ∧ Yields depth text f.2

lemma YieldsField.length_pos {piece : Bytes} {f : String × Json} (h : YieldsField depth piece f) :
    0 < piece.length := by
  obtain ⟨text, hpiece, -⟩ := h
  simp [hpiece]

lemma readColon_cons (rest : Bytes) (index : Nat) :
    readColon ⟨0x3A :: rest, index⟩ = .ok ⟨rest, index + 1⟩ := rfl

/-- A field is read up to what stands behind it, and put in its place. -/
lemma readFields_lead {piece : Bytes} {f : String × Json} (hf : YieldsField depth piece f)
    (hfuel : 2 * piece.length ≤ fuel) (hstops : Stops behind) (isFirst : Bool) (index : Nat)
    (read : List (String × Json)) :
    ∃ j, readFields (fuel + 1) depth isFirst ⟨lead isFirst ++ (piece ++ behind), index⟩ read
      = readFields fuel depth false ⟨behind, j⟩ (insertField f.1 f.2 read) := by
  obtain ⟨text, hpiece, hv⟩ := hf
  rw [hpiece, List.length_append, List.length_cons] at hfuel
  have hskip (rest : Bytes) (j : Nat) : Cursor.skip ⟨0x22 :: rest, j⟩ 1 = ⟨rest, j + 1⟩ := rfl
  obtain ⟨j, hj⟩ := nextField_lead isFirst
    (encode (f.1.toList.flatMap escapeChar) ++ 0x22 :: 0x3A :: (text ++ behind)) index
  obtain ⟨k, hk⟩ := readText_escaped f.1 (0x3A :: (text ++ behind)) (j + 1)
  obtain ⟨l, hl⟩ := hv.reads fuel behind (k + 1) (by omega) hstops
  refine ⟨l, ?_⟩
  simp only [hpiece, ofString_writeString, List.cons_append, List.append_assoc, List.nil_append,
    readFields, hj, hskip, hk, readColon_cons, hl]

/-- The fields of an object are read one after the other, each put in its place. -/
lemma readFields_glued {pieces : List Bytes} {fields : List (String × Json)}
    (h : List.Forall₂ (YieldsField depth) pieces fields) (isFirst : Bool)
    (read : List (String × Json)) (hfuel : 2 * (glued isFirst pieces).length + 1 ≤ fuel)
    (behind : Bytes) (index : Nat) :
    ∃ j, readFields fuel depth isFirst ⟨glued isFirst pieces ++ 0x7D :: behind, index⟩ read
      = .ok (.obj (fields.foldl (fun acc f => insertField f.1 f.2 acc) read), ⟨behind, j⟩) := by
  induction h generalizing fuel isFirst read index with
  | nil =>
    obtain ⟨fuel, rfl⟩ := exists_succ hfuel (by omega)
    exact ⟨index + 1, rfl⟩
  | @cons piece f pieces fields hf _ ih =>
    obtain ⟨fuel, rfl⟩ := exists_succ hfuel (by omega)
    have hlength := length_glued_cons isFirst piece pieces
    have hpositive := hf.length_pos
    have hvalue : 2 * piece.length ≤ fuel := by omega
    have hmore : 2 * (glued false pieces).length + 1 ≤ fuel := by omega
    have hstops : Stops (glued false pieces ++ 0x7D :: behind) := stops_glued (by decide) pieces
    obtain ⟨j, hj⟩ := readFields_lead hf hvalue hstops isFirst index read
    obtain ⟨k, hk⟩ := ih false (insertField f.1 f.2 read) hmore j
    refine ⟨k, ?_⟩
    rw [glued, List.append_assoc, List.append_assoc, hj, hk, List.foldl_cons]

lemma yields_list {texts : List Bytes} {items : List Json}
    (h : List.Forall₂ (Yields depth) texts items) :
    Yields (depth + 1) (0x5B :: (glued true texts ++ [0x5D])) (.arr items) := by
  refine ⟨⟨_, _, rfl, by decide⟩, fun fuel behind index hfuel _ => ?_⟩
  obtain ⟨fuel, rfl⟩ := exists_succ hfuel (by simp)
  have hroom : 2 * (glued true texts).length + 1 ≤ fuel := by
    rw [List.length_cons, List.length_append] at hfuel
    omega
  obtain ⟨j, hj⟩ := readItems_glued h true [] hroom behind (index + 1)
  refine ⟨j, ?_⟩
  rw [List.cons_append, List.append_assoc]
  exact hj

lemma yields_object {pieces : List Bytes} {fields : List (String × Json)}
    (h : List.Forall₂ (YieldsField depth) pieces fields) :
    Yields (depth + 1) (0x7B :: (glued true pieces ++ [0x7D])) (ofFields fields) := by
  refine ⟨⟨_, _, rfl, by decide⟩, fun fuel behind index hfuel _ => ?_⟩
  obtain ⟨fuel, rfl⟩ := exists_succ hfuel (by simp)
  have hroom : 2 * (glued true pieces).length + 1 ≤ fuel := by
    rw [List.length_cons, List.length_append] at hfuel
    omega
  obtain ⟨j, hj⟩ := readFields_glued h true [] hroom behind (index + 1)
  refine ⟨j, ?_⟩
  rw [List.cons_append, List.append_assoc]
  exact hj

/-! ## The round trip -/

mutual
/-- What is written for a value yields it, with its objects in order. -/
theorem yields_write : ∀ {v : Json} {depth : Nat}, Legible v → v.depth ≤ depth →
    Yields depth (ofString (write v)) (arrange v)
  | .null, _, _, _ => yields_null
  | .bool true, _, _, _ => yields_true
  | .bool false, _, _, _ => yields_false
  | .int _, _, h, _ => by
    rw [write]
    exact yields_int h
  | .real _, _, h, _ => by
    rw [write]
    exact yields_real h
  | .str s, _, _, _ => by
    rw [write]
    exact yields_string s
  | .arr items, 0, _, hd => by simp [depth] at hd
  | .arr items, d + 1, h, hd => by
    rw [write, ofString_bracketed]
    exact yields_list (yields_writeItems (everywhere_arr.1 h).2
      (depthItems_le_iff.1 (by simpa [depth] using hd)))
  | .obj fields, 0, _, hd => by simp [depth] at hd
  | .obj fields, d + 1, h, hd => by
    rw [write, ofString_bracketed]
    exact yields_object (yieldsField_writePairs (everywhere_obj.1 h).2
      (depthFields_le_iff.1 (by simpa [depth] using hd)))
theorem yields_writeItems : ∀ {items : List Json} {depth : Nat}, (∀ v ∈ items, Legible v) →
    (∀ v ∈ items, v.depth ≤ depth) →
    List.Forall₂ (Yields depth) ((writeItems items).map ofString) (arrangeItems items)
  | [], _, _, _ => .nil
  | v :: items, _, h, hd => by
    rw [writeItems, arrangeItems, List.map_cons]
    exact .cons (yields_write (h v (by simp)) (hd v (by simp)))
      (yields_writeItems (fun w hw => h w (by simp [hw])) fun w hw => hd w (by simp [hw]))
theorem yieldsField_writePairs : ∀ {fields : List (String × Json)} {depth : Nat},
    (∀ f ∈ fields, Legible f.2) → (∀ f ∈ fields, f.2.depth ≤ depth) →
    List.Forall₂ (YieldsField depth) ((writePairs fields).map ofString) (arrangeFields fields)
  | [], _, _, _ => .nil
  | (n, v) :: fields, _, h, hd => by
    rw [writePairs, arrangeFields, List.map_cons]
    refine .cons ⟨ofString (write v), ?_, yields_write (h (n, v) (by simp)) (hd (n, v) (by simp))⟩
      (yieldsField_writePairs (fun f hf => h f (by simp [hf])) fun f hf => hd f (by simp [hf]))
    rw [Utf8.ofString_append, Utf8.ofString_append, List.append_assoc]
    rfl
end

/-- **What was written is read back**, with the fields of all objects in order. -/
theorem parse_write {v : Json} (h : Legible v) (hd : v.depth ≤ depthLimit) :
    parse (write v) = .ok (arrange v) := by
  obtain ⟨j, hj⟩ := (yields_write h hd).reads (2 * (ofString (write v)).length + 2) [] 0
    (by omega) stops_nil
  rw [List.append_nil] at hj
  simp only [parse, parseBytes, hj]
  rfl

end ServerLink.Json
