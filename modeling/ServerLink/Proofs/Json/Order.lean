import Mathlib
import ServerLink.Proofs.Json.Number
import ServerLink.Proofs.Lookup

/-!
# Objects in order

The fields of an object stand in ascending order of their names, each name once.  Every object that
the reader makes is so, however its fields stand in the text: the last field of a name counts.

* `Ascending` — fields in order; `ascending_insertField` keeps them so, `lookup_insertField` says
  what is found afterwards.
* **`lookup_arranged`** — what is found in an object made from fields in any order.
* `Everywhere` — a property of a value and of all values in it; `Ordered` is the one at hand.
* `Hereditary` — a property that passes from the parts of a value to the value, and so holds of
  every value that was read (`Hereditary.of_parse`).
* **`ordered_of_parse`** — a value that was read is in order.
-/

namespace ServerLink.Json

/-! ## Fields -/

/-- The names of fields ascend, so none of them stands twice. -/
def Ascending (fields : List (String × Json)) : Prop := (fields.map Prod.fst).Pairwise (· < ·)

instance (fields : List (String × Json)) : Decidable (Ascending fields) :=
  inferInstanceAs (Decidable ((fields.map Prod.fst).Pairwise (· < ·)))

variable {name : String} {value : Json} {fields : List (String × Json)}

lemma ascending_nil : Ascending [] := List.Pairwise.nil

lemma ascending_cons {n : String} {v : Json} : Ascending ((n, v) :: fields)
    ↔ (∀ f ∈ fields, n < f.1) ∧ Ascending fields := by
  simp only [Ascending, List.map_cons, List.pairwise_cons, List.forall_mem_map]

lemma Ascending.nodup (h : Ascending fields) : (fields.map Prod.fst).Nodup :=
  h.imp fun hlt => ne_of_lt hlt

lemma eq_or_mem_of_mem_insertField {f : String × Json} (h : f ∈ insertField name value fields) :
    f = (name, value) ∨ f ∈ fields := by
  induction fields with
  | nil => exact .inl (by simpa [insertField] using h)
  | cons g fields ih =>
    obtain ⟨n, v⟩ := g
    rw [insertField] at h
    split at h
    · exact (List.mem_cons.1 h).imp_right (List.mem_cons_of_mem _)
    · split at h
      · exact List.mem_cons.1 h
      · rcases List.mem_cons.1 h with rfl | h
        · exact .inr (List.mem_cons_self ..)
        · exact (ih h).imp_right (List.mem_cons_of_mem _)

/-- A field put in its place leaves the fields in order. -/
lemma ascending_insertField (h : Ascending fields) (name : String) (value : Json) :
    Ascending (insertField name value fields) := by
  induction fields with
  | nil => simp [insertField, Ascending]
  | cons g fields ih =>
    obtain ⟨n, v⟩ := g
    obtain ⟨hlow, hrest⟩ := ascending_cons.1 h
    rw [insertField]
    split
    next heq => exact ascending_cons.2 ⟨heq ▸ hlow, hrest⟩
    next hne =>
      split
      next hlt =>
        refine ascending_cons.2 ⟨fun f hf => ?_, h⟩
        rcases List.mem_cons.1 hf with rfl | hf
        · exact hlt
        · exact hlt.trans (hlow f hf)
      next hge =>
        refine ascending_cons.2 ⟨fun f hf => ?_, ih hrest⟩
        rcases eq_or_mem_of_mem_insertField hf with rfl | hf
        · exact lt_of_le_of_ne (not_lt.1 hge) (Ne.symm hne)
        · exact hlow f hf

/-- The field that was put in its place is found, and all others as before. -/
lemma lookup_insertField (name m : String) (value : Json) (fields : List (String × Json)) :
    (insertField name value fields).lookup m = ((name, value) :: fields).lookup m := by
  induction fields with
  | nil => rfl
  | cons g fields ih =>
    obtain ⟨n, v⟩ := g
    rw [insertField]
    split
    next heq =>
      subst heq
      simp only [List.lookup_cons]
      split <;> rfl
    next hne =>
      split
      next => rfl
      next =>
        simp only [List.lookup_cons, ih]
        by_cases hm : m = n
        · subst hm
          have hmn : (m == name) = false := by simpa using Ne.symm hne
          simp [hmn]
        · have hmn : (m == n) = false := by simpa using hm
          simp [hmn]

/-- A field behind all others is put at the end. -/
lemma insertField_of_forall_lt (h : ∀ f ∈ fields, f.1 < name) :
    insertField name value fields = fields ++ [(name, value)] := by
  induction fields with
  | nil => rfl
  | cons g fields ih =>
    obtain ⟨n, v⟩ := g
    have hlt : n < name := h (n, v) (by simp)
    rw [insertField, if_neg hlt.ne', if_neg hlt.asymm, ih fun f hf => h f (by simp [hf]),
      List.cons_append]

/-! ## Objects made from fields -/

/-- The fields of an object that is made from the given ones: in order, the last of each name. -/
def arranged (fields : List (String × Json)) : List (String × Json) :=
  fields.foldl (fun acc f => insertField f.1 f.2 acc) []

lemma ofFields_eq (fields : List (String × Json)) : ofFields fields = .obj (arranged fields) := rfl

lemma arranged_concat (fields : List (String × Json)) (f : String × Json) :
    arranged (fields ++ [f]) = insertField f.1 f.2 (arranged fields) := by
  simp [arranged]

/-- **The last field of a name counts.** -/
theorem lookup_arranged (fields : List (String × Json)) (m : String) :
    (arranged fields).lookup m = fields.reverse.lookup m := by
  induction fields using List.reverseRecOn with
  | nil => rfl
  | append_singleton fields f ih =>
    rw [arranged_concat, lookup_insertField, List.reverse_append, List.reverse_singleton,
      List.singleton_append, List.lookup_cons, List.lookup_cons, ih]

/-- Where no name stands twice, each field of an object is the one that was given. -/
lemma field?_ofFields (h : (fields.map Prod.fst).Nodup) (m : String) :
    (ofFields fields).field? m = fields.lookup m := by
  rw [ofFields_eq, field?, lookup_arranged]
  exact (lookup_perm h (List.reverse_perm fields).symm).symm

/-- Fields in order make the object of these fields. -/
lemma arranged_of_ascending (h : Ascending fields) : arranged fields = fields := by
  induction fields using List.reverseRecOn with
  | nil => rfl
  | append_singleton fields f ih =>
    rw [Ascending, List.map_append, List.pairwise_append] at h
    obtain ⟨hfields, -, hlast⟩ := h
    rw [arranged_concat, ih hfields, insertField_of_forall_lt]
    exact fun g hg => hlast g.1 (List.mem_map_of_mem hg) f.1 (by simp)

/-! ## A property of all values in a value -/

variable {p : Json → Prop}

mutual
/-- A property of a value and of all values in it. -/
def Everywhere (p : Json → Prop) : Json → Prop
  | .arr items => p (.arr items) ∧ EverywhereItems p items
  | .obj fields => p (.obj fields) ∧ EverywhereFields p fields
  | v => p v
/-- A property of all items and of all values in them. -/
def EverywhereItems (p : Json → Prop) : List Json → Prop
  | [] => True
  | v :: rest => Everywhere p v ∧ EverywhereItems p rest
/-- A property of all values of fields and of all values in them. -/
def EverywhereFields (p : Json → Prop) : List (String × Json) → Prop
  | [] => True
  | (_, v) :: rest => Everywhere p v ∧ EverywhereFields p rest
end

lemma everywhereItems_iff {items : List Json} :
    EverywhereItems p items ↔ ∀ v ∈ items, Everywhere p v := by
  induction items with
  | nil => simp [EverywhereItems]
  | cons v items ih => simp [EverywhereItems, ih]

lemma everywhereFields_iff : EverywhereFields p fields ↔ ∀ f ∈ fields, Everywhere p f.2 := by
  induction fields with
  | nil => simp [EverywhereFields]
  | cons f fields ih => simp [EverywhereFields, ih]

lemma everywhere_arr {items : List Json} :
    Everywhere p (.arr items) ↔ p (.arr items) ∧ ∀ v ∈ items, Everywhere p v := by
  rw [Everywhere, everywhereItems_iff]

lemma everywhere_obj :
    Everywhere p (.obj fields) ↔ p (.obj fields) ∧ ∀ f ∈ fields, Everywhere p f.2 := by
  rw [Everywhere, everywhereFields_iff]

mutual
instance decidableEverywhere [DecidablePred p] : (v : Json) → Decidable (Everywhere p v)
  | .arr items =>
    have := decidableEverywhereItems items
    inferInstanceAs (Decidable (p (.arr items) ∧ EverywhereItems p items))
  | .obj fields =>
    have := decidableEverywhereFields fields
    inferInstanceAs (Decidable (p (.obj fields) ∧ EverywhereFields p fields))
  | .null => inferInstanceAs (Decidable (p .null))
  | .bool b => inferInstanceAs (Decidable (p (.bool b)))
  | .int n => inferInstanceAs (Decidable (p (.int n)))
  | .real x => inferInstanceAs (Decidable (p (.real x)))
  | .str s => inferInstanceAs (Decidable (p (.str s)))
instance decidableEverywhereItems [DecidablePred p] :
    (items : List Json) → Decidable (EverywhereItems p items)
  | [] => .isTrue trivial
  | v :: rest =>
    have := decidableEverywhere v
    have := decidableEverywhereItems rest
    inferInstanceAs (Decidable (Everywhere p v ∧ EverywhereItems p rest))
instance decidableEverywhereFields [DecidablePred p] :
    (fields : List (String × Json)) → Decidable (EverywhereFields p fields)
  | [] => .isTrue trivial
  | (_, v) :: rest =>
    have := decidableEverywhere v
    have := decidableEverywhereFields rest
    inferInstanceAs (Decidable (Everywhere p v ∧ EverywhereFields p rest))
end

/-! ## Values in order -/

/-- An object has its fields in order; all else is in order. -/
def InOrder : Json → Prop
  | .obj fields => Ascending fields
  | _ => True

instance : DecidablePred InOrder
  | .obj fields => inferInstanceAs (Decidable (Ascending fields))
  | .null | .bool _ | .int _ | .real _ | .str _ | .arr _ => .isTrue trivial

/-- All objects in a value have their fields in order. -/
def Ordered : Json → Prop := Everywhere InOrder

instance : DecidablePred Ordered := fun v => inferInstanceAs (Decidable (Everywhere InOrder v))

/-! ## Values that were read -/

/-- A property of values, and of how many brackets may open in them, that holds of words, numbers
and texts and passes from the parts of a list or an object to the whole. -/
structure Hereditary (holds : Nat → Json → Prop) : Prop where
  null : ∀ {d}, holds d .null
  bool : ∀ {d} b, holds d (.bool b)
  number : ∀ {d v}, IsNumber v → holds d v
  str : ∀ {d} s, holds d (.str s)
  arr : ∀ {d items}, (∀ v ∈ items, holds d v) → holds (d + 1) (.arr items)
  obj : ∀ {d fields}, Ascending fields → (∀ f ∈ fields, holds d f.2) → holds (d + 1) (.obj fields)

section Hereditary

variable {holds : Nat → Json → Prop} {depth : Nat} {c c' : Cursor} {v : Json}

lemma eq_of_readWord {word : Bytes} {w : Json} (h : readWord v word c = .ok (w, c')) : w = v := by
  induction word generalizing c with
  | nil =>
    obtain ⟨rfl, -⟩ : v = w ∧ c = c' := by simpa [readWord] using h
    rfl
  | cons b word ih =>
    simp only [readWord] at h
    split at h
    · cases h
    · split at h
      · exact ih h
      · cases h

lemma isNumber_of_readNumber {positive : Bool} (h : readNumber positive c = .ok (v, c')) :
    IsNumber v := by
  have hcarries : Carries 0 [] c (readNumber positive c) (readNumber positive (c.within 0 [])) :=
    carries_readNumber stops_nil positive
  exact (hcarries v c' h).1

mutual
/-- **What passes from parts to wholes** holds of a value that was read: its items are read one by
one, and the fields of its objects are put in their places one by one. -/
theorem Hereditary.of_readValue (hp : Hereditary holds) (fuel : Nat) {depth : Nat} {c c' : Cursor}
    {v : Json} (h : readValue fuel depth c = .ok (v, c')) : holds depth v := by
  match fuel with
  | 0 => simp [readValue] at h
  | fuel + 1 =>
    simp only [readValue] at h
    split at h
    · cases h
    · -- one case for each first byte; only brackets go back into the recursion
      split at h
      · exact eq_of_readWord h ▸ hp.null
      split at h
      · exact eq_of_readWord h ▸ hp.bool true
      split at h
      · exact eq_of_readWord h ▸ hp.bool false
      split at h
      · exact hp.number (isNumber_of_readNumber h)
      split at h
      · exact hp.number (isNumber_of_readNumber h)
      split at h
      · split at h <;> cases h
        exact hp.str _
      split at h
      · split at h
        · cases h
        · exact hp.of_readItems fuel (by simp) h
      split at h
      · split at h
        · cases h
        · exact hp.of_readFields fuel ascending_nil (by simp) h
      · cases h
theorem Hereditary.of_readItems (hp : Hereditary holds) (fuel : Nat) {depth : Nat} {isFirst : Bool}
    {c c' : Cursor} {read : List Json} {v : Json} (hread : ∀ w ∈ read, holds depth w)
    (h : readItems fuel depth isFirst c read = .ok (v, c')) : holds (depth + 1) v := by
  match fuel with
  | 0 => simp [readItems] at h
  | fuel + 1 =>
    simp only [readItems] at h
    split at h
    · cases h
    next c₁ _ =>
      cases h
      exact hp.arr fun w hw => hread w (List.mem_reverse.1 hw)
    next c₁ _ =>
      split at h
      · cases h
      next w c₂ hvalue =>
        refine hp.of_readItems fuel (fun u hu => ?_) h
        rcases List.mem_cons.1 hu with rfl | hu
        · exact hp.of_readValue fuel hvalue
        · exact hread u hu
theorem Hereditary.of_readFields (hp : Hereditary holds) (fuel : Nat) {depth : Nat} {isFirst : Bool}
    {c c' : Cursor} {read : List (String × Json)} {v : Json} (hascending : Ascending read)
    (hread : ∀ f ∈ read, holds depth f.2)
    (h : readFields fuel depth isFirst c read = .ok (v, c')) : holds (depth + 1) v := by
  match fuel with
  | 0 => simp [readFields] at h
  | fuel + 1 =>
    simp only [readFields] at h
    split at h
    · cases h
    · cases h
      exact hp.obj hascending hread
    · split at h
      · cases h
      split at h
      · cases h
      split at h
      · cases h
      next name _ _ _ _ _ _ w _ hvalue =>
        have hw := hp.of_readValue fuel hvalue
        refine hp.of_readFields fuel (ascending_insertField hascending name w) (fun f hf => ?_) h
        rcases eq_or_mem_of_mem_insertField hf with rfl | hf
        · exact hw
        · exact hread f hf
end

/-- A text is read by one value up to its end. -/
lemma readValue_of_parse {text : String} (h : parse text = .ok v) :
    ∃ c, readValue (2 * (Utf8.ofString text).length + 2) depthLimit ⟨Utf8.ofString text, 0⟩
        = .ok (v, c) ∧ c.skipBlanks.rest = [] := by
  simp only [parse, parseBytes] at h
  split at h
  next w hbytes =>
    obtain rfl : w = v := by simpa using h
    split at hbytes
    · cases hbytes
    next u c hvalue =>
      split at hbytes
      next hend =>
        obtain rfl : u = w := by simpa using hbytes
        exact ⟨c, hvalue, by simpa using hend⟩
      · cases hbytes
  next => cases h

/-- A text was read with as many brackets as may open. -/
lemma Hereditary.of_parse (hp : Hereditary holds) {text : String} (h : parse text = .ok v) :
    holds depthLimit v := by
  obtain ⟨c, hread, -⟩ := readValue_of_parse h
  exact hp.of_readValue _ hread

end Hereditary

lemma hereditary_ordered : Hereditary fun _ v => Ordered v where
  null := trivial
  bool _ := trivial
  number h := by cases h <;> exact trivial
  str _ := trivial
  arr h := everywhere_arr.2 ⟨trivial, h⟩
  obj hascending h := everywhere_obj.2 ⟨hascending, h⟩

/-- **A value that was read is in order.** -/
theorem ordered_of_parse {text : String} {v : Json} (h : parse text = .ok v) : Ordered v :=
  hereditary_ordered.of_parse h

end ServerLink.Json
