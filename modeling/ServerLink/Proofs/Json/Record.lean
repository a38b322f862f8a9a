import Mathlib
import ServerLink.Json.Shape
import ServerLink.Proofs.Json.Order

/-!
# Records read member by member

A value has the form of a record when each field of the record has its form.  The value may give its
members by name, as an object does, or in their places, as a list of as many items does; from there
on it makes no difference.

* `members?` — the members of a value, under the names of the fields.
* `Takes` — what a form makes of a member, which may be absent before and after.
* **`takes_of_read_record`**, **`exists_read_record`** — a record is read just if each of its fields
  takes its member, and the normal form has at each name what the field took.
* **`exists_read_record_iff`** — the same for things of a type of their own, which are seen in the
  normal form.
-/

namespace ServerLink.Shape

variable {name : String} {form : Shape} {fields : List (String × Shape)}
  {given : List (String × Json)} {v r : Json}

/-! ## Members -/

/-- The members of a value that is read as a record with fields of these names. -/
def members? (names : List String) : Json → Option (List (String × Json))
  | .obj given => some given
  | .arr items => if items.length = names.length then some (names.zip items) else none
  | _ => none

/-- What is kept of a member that was read: an optional one that is null is dropped. -/
def keep (form : Shape) (r : Json) : Option Json :=
  if form.mayBeAbsent && r.isNull then none else some r

/-- What a form makes of a member: it reads the member that is there, and an absent one only where
it may be absent. -/
inductive Takes (form : Shape) : Option Json → Option Json → Prop where
  | absent (h : form.mayBeAbsent = true) : Takes form none none
  | present {v r : Json} (h : read form v = .ok r) : Takes form (some v) (keep form r)

/-- The fields that were kept for a member: one at most, under its name. -/
lemma keepField_eq (name : String) (form : Shape) (r : Json) :
    keepField name form r = (keep form r).toList.map (name, ·) := by
  unfold keepField keep
  split <;> rfl

/-! ## One member -/

/-- The record's own field of a name is the one that reads the member. -/
lemma readField_of_mem (hfields : (fields.map Prod.fst).Nodup) {f : String × Shape}
    (hf : f ∈ fields) (v : Json) :
    readField fields f.1 v = (read f.2 v).map (keepField f.1 f.2) := by
  induction fields with
  | nil => simp at hf
  | cons g fields ih =>
    obtain ⟨n, s⟩ := g
    rw [List.map_cons, List.nodup_cons] at hfields
    rcases List.mem_cons.1 hf with rfl | hf
    · rw [readField, if_pos rfl]
    · have hne : n ≠ f.1 := fun heq => hfields.1 (List.mem_map.2 ⟨f, hf, heq.symm⟩)
      rw [readField, if_neg hne, ih hfields.2 hf]

/-- A member that the record does not name is dropped. -/
lemma readField_of_notMem {n : String} (hn : n ∉ fields.map Prod.fst) (v : Json) :
    readField fields n v = .ok [] := by
  induction fields with
  | nil => rw [readField]
  | cons g fields ih =>
    obtain ⟨m, s⟩ := g
    rw [List.map_cons, List.mem_cons, not_or] at hn
    rw [readField, if_neg (Ne.symm hn.1), ih hn.2]

/-! ## All members -/

/-- The members were read one by one, and these are the fields that were kept for each. -/
def ReadAs (fields : List (String × Shape)) (given : List (String × Json))
    (kept : List (List (String × Json))) : Prop :=
  List.Forall₂ (fun g k => readField fields g.1 g.2 = .ok k) given kept

lemma mapM_eq_ok_iff {α β ε : Type} {f : α → Except ε β} {xs : List α} {ys : List β} :
    xs.mapM f = .ok ys ↔ List.Forall₂ (fun x y => f x = .ok y) xs ys := by
  induction xs generalizing ys with
  | nil =>
    rw [List.mapM_nil, List.forall₂_nil_left_iff]
    exact ⟨fun h => by cases h; rfl, fun h => by rw [h]; rfl⟩
  | cons x xs ih =>
    rw [List.mapM_cons, List.forall₂_cons_left_iff]
    cases hx : f x with
    | error e => simp [bind, Except.bind]
    | ok y =>
      cases hxs : xs.mapM f with
      | error e => simp [bind, Except.bind, ← ih, hxs]
      | ok zs => simp [bind, Except.bind, pure, Except.pure, ← ih, hxs, eq_comm]

/-- What was kept for a member is one field at most, under its name. -/
lemma names_of_readField {n : String} {k : List (String × Json)}
    (h : readField fields n v = .ok k) : (k.map Prod.fst).Sublist [n] := by
  induction fields with
  | nil =>
    obtain rfl : [] = k := by simpa [readField] using h
    exact List.nil_sublist _
  | cons g fields ih =>
    obtain ⟨m, s⟩ := g
    rw [readField] at h
    split at h
    next heq =>
      subst heq
      cases hread : read s v with
      | error e => simp [hread, Except.map] at h
      | ok r =>
        obtain rfl : keepField m s r = k := by simpa [hread, Except.map] using h
        rw [keepField_eq]
        cases keep s r <;> simp
    next => exact ih h

lemma lookup_readField_of_ne {n m : String} {k : List (String × Json)}
    (h : readField fields n v = .ok k) (hne : m ≠ n) : k.lookup m = none :=
  lookup_eq_none_iff_notMem.2 fun hmem =>
    hne (by simpa using (names_of_readField h).subset hmem)

variable {kept : List (List (String × Json))}

lemma ReadAs.names (h : ReadAs fields given kept) :
    (kept.flatten.map Prod.fst).Sublist (given.map Prod.fst) := by
  induction h with
  | nil => exact List.nil_sublist _
  | cons hg _ ih =>
    rw [List.flatten_cons, List.map_append, List.map_cons, ← List.singleton_append]
    exact (names_of_readField hg).append ih

lemma ReadAs.lookup_none (h : ReadAs fields given kept) {n : String}
    (hn : given.lookup n = none) : kept.flatten.lookup n = none := by
  rw [lookup_eq_none_iff_notMem] at hn ⊢
  exact fun hmem => hn (h.names.subset hmem)

lemma ReadAs.lookup_some (hfields : (fields.map Prod.fst).Nodup)
    (hgiven : (given.map Prod.fst).Nodup) (h : ReadAs fields given kept) {f : String × Shape}
    (hf : f ∈ fields) (hv : given.lookup f.1 = some v) :
    ∃ r, read f.2 v = .ok r ∧ kept.flatten.lookup f.1 = keep f.2 r := by
  induction h with
  | nil => simp at hv
  | @cons g k given kept hg hrest ih =>
    obtain ⟨n, u⟩ := g
    rw [List.map_cons, List.nodup_cons] at hgiven
    rw [List.flatten_cons, List.lookup_append]
    by_cases hname : f.1 = n
    · subst hname
      obtain rfl : u = v := by simpa using hv
      rw [readField_of_mem hfields hf] at hg
      have hnone : kept.flatten.lookup f.1 = none :=
        ReadAs.lookup_none hrest (lookup_eq_none_iff_notMem.2 hgiven.1)
      cases hread : read f.2 u with
      | error e => simp [hread, Except.map] at hg
      | ok r =>
        obtain rfl : keepField f.1 f.2 r = k := by simpa [hread, Except.map] using hg
        refine ⟨r, rfl, ?_⟩
        rw [hnone, Option.or_none, keepField_eq]
        cases keep f.2 r <;> simp
    · have hskip : given.lookup f.1 = some v := by
        rwa [List.lookup_cons, beq_eq_false_iff_ne.2 hname] at hv
      rw [lookup_readField_of_ne hg hname, Option.none_or]
      exact ih hgiven.2 hskip

/-! ## The two ways to give members -/

lemma firstMissing_eq_none_iff : firstMissing fields given = none
    ↔ ∀ f ∈ fields, f.2.mayBeAbsent = true ∨ (given.lookup f.1).isSome = true := by
  rw [firstMissing, Option.map_eq_none_iff, List.find?_eq_none]
  refine forall₂_congr fun ⟨n, s⟩ _ => ?_
  dsimp only
  cases s.mayBeAbsent <;> cases given.lookup n <;> simp

lemma read_record_obj_iff : read (.record name fields) (.obj given) = .ok r
    ↔ ∃ kept, ReadAs fields given kept ∧
      (∀ f ∈ fields, f.2.mayBeAbsent = true ∨ (given.lookup f.1).isSome = true) ∧
      .obj kept.flatten = r := by
  simp only [read, closeRecord]
  split
  next m hm =>
    simp only [reduceCtorEq, false_iff]
    rintro ⟨kept, hkept, -⟩
    rw [mapM_eq_ok_iff.2 hkept] at hm
    cases hm
  next kept hkept =>
    have hread (kept' : List (List (String × Json))) :
        ReadAs fields given kept' ↔ kept = kept' := by
      rw [ReadAs, ← mapM_eq_ok_iff, hkept, Except.ok.injEq]
    simp only [hread, exists_eq_left', ← firstMissing_eq_none_iff]
    cases firstMissing fields given <;> simp

/-- The items of a list are read like the members of an object with the names of the fields. -/
lemma readRow_eq_ok_iff {items : List Json} {rest : List (String × Shape)}
    (hfields : (fields.map Prod.fst).Nodup) (hrest : ∀ f ∈ rest, f ∈ fields)
    (hlength : items.length = rest.length) (index : Nat) (expected : String)
    {row : List (String × Json)} :
    readRow rest index expected items = .ok row
      ↔ ∃ kept, ReadAs fields ((rest.map Prod.fst).zip items) kept ∧ kept.flatten = row := by
  induction rest generalizing items index row with
  | nil => simp [readRow, ReadAs]
  | cons f rest ih =>
    obtain ⟨n, s⟩ := f
    cases items with
    | nil => simp at hlength
    | cons v items =>
      have hone : readField fields n v = (read s v).map (keepField n s) :=
        readField_of_mem hfields (hrest (n, s) (by simp)) v
      have hmore (row : List (String × Json)) :
          readRow rest (index + 1) expected items = .ok row
            ↔ ∃ kept, ReadAs fields ((rest.map Prod.fst).zip items) kept ∧ kept.flatten = row :=
        ih (fun f hf => hrest f (by simp [hf])) (by simpa using hlength) (index + 1)
      simp only [List.map_cons, List.zip_cons_cons, ReadAs, List.forall₂_cons_left_iff, readRow,
        hone]
      -- the item is refused, or one behind it is, or all are read
      cases hread : read s v with
      | error e => simp [Except.map]
      | ok r =>
        cases htail : readRow rest (index + 1) expected items with
        | error e =>
          simp only [htail, reduceCtorEq, false_iff] at hmore ⊢
          rintro ⟨kept, ⟨k, tail, -, hreads, rfl⟩, -⟩
          exact hmore _ ⟨tail, hreads, rfl⟩
        | ok row' =>
          simp only [htail, Except.ok.injEq] at hmore ⊢
          constructor
          · rintro rfl
            obtain ⟨tail, hreads, rfl⟩ := (hmore row').1 rfl
            exact ⟨keepField n s r :: tail, ⟨_, tail, rfl, hreads, rfl⟩, by simp⟩
          · rintro ⟨_, ⟨k, tail, hk, hreads, rfl⟩, rfl⟩
            obtain rfl : keepField n s r = k := by simpa [Except.map] using hk
            rw [(hmore _).2 ⟨tail, hreads, rfl⟩, List.flatten_cons]

lemma length_le_of_readRow {items : List Json} {index : Nat} {expected : String}
    {row : List (String × Json)} (h : readRow fields index expected items = .ok row) :
    fields.length ≤ items.length := by
  induction fields generalizing items index row with
  | nil => simp
  | cons f fields ih =>
    obtain ⟨n, s⟩ := f
    cases items with
    | nil => simp [readRow] at h
    | cons v items =>
      rw [readRow] at h
      split at h
      · cases h
      split at h
      · cases h
      next row' htail =>
        have := ih htail
        simpa using this

lemma read_record_arr_iff {items : List Json} (hfields : (fields.map Prod.fst).Nodup) :
    read (.record name fields) (.arr items) = .ok r
    ↔ items.length = fields.length ∧
      ∃ kept, ReadAs fields ((fields.map Prod.fst).zip items) kept ∧
        Json.ofFields kept.flatten = r := by
  rw [read]
  constructor
  · intro h
    split at h
    · cases h
    next row hrow =>
      have hle := length_le_of_readRow hrow
      split at h
      · cases h
      next hge =>
        have hlength : items.length = fields.length := by omega
        obtain ⟨kept, hkept, rfl⟩ := (readRow_eq_ok_iff hfields (fun _ hf => hf) hlength _ _).1 hrow
        exact ⟨hlength, kept, hkept, by simpa using h⟩
  · rintro ⟨hlength, kept, hkept, rfl⟩
    have hrow := (readRow_eq_ok_iff hfields (fun _ hf => hf) hlength 0
      (lengthOf name fields.length)).2 ⟨kept, hkept, rfl⟩
    rw [hrow]
    simp [hlength]

/-! ## Records -/

/-- Members that were read and are not missing were taken by their fields. -/
lemma ReadAs.takes (hfields : (fields.map Prod.fst).Nodup) (hgiven : (given.map Prod.fst).Nodup)
    (h : ReadAs fields given kept) {f : String × Shape} (hf : f ∈ fields)
    (hthere : f.2.mayBeAbsent = true ∨ (given.lookup f.1).isSome = true) :
    Takes f.2 (given.lookup f.1) (kept.flatten.lookup f.1) := by
  cases hv : given.lookup f.1 with
  | none =>
    rw [h.lookup_none hv]
    exact .absent (by simpa [hv] using hthere)
  | some v =>
    obtain ⟨r, hr, hlookup⟩ := h.lookup_some hfields hgiven hf hv
    rw [hlookup]
    exact .present hr

lemma map_fst_zip_fields {items : List Json} (hlength : items.length = fields.length) :
    ((fields.map Prod.fst).zip items).map Prod.fst = fields.map Prod.fst :=
  List.map_fst_zip (by simp [hlength])

lemma isSome_lookup_of_mem {n : String} (h : n ∈ given.map Prod.fst) :
    (given.lookup n).isSome = true := by
  rw [Option.isSome_iff_ne_none, ne_eq, lookup_eq_none_iff_notMem]
  exact not_not_intro h

/-- **Each field of a record that was read took its member**, and the normal form has at its name
what it took. -/
theorem takes_of_read_record (hfields : (fields.map Prod.fst).Nodup) (hv : Json.Ordered v)
    (h : read (.record name fields) v = .ok r) :
    ∃ given, members? (fields.map Prod.fst) v = some given ∧
      ∀ f ∈ fields, Takes f.2 (given.lookup f.1) (r.field? f.1) := by
  cases v with
  | obj given =>
    obtain ⟨kept, hkept, hthere, rfl⟩ := read_record_obj_iff.1 h
    have hgiven := (Json.everywhere_obj.1 hv).1.nodup
    exact ⟨given, rfl, fun f hf => hkept.takes hfields hgiven hf (hthere f hf)⟩
  | arr items =>
    obtain ⟨hlength, kept, hkept, rfl⟩ := (read_record_arr_iff hfields).1 h
    have hnames := map_fst_zip_fields hlength
    have hgiven : (((fields.map Prod.fst).zip items).map Prod.fst).Nodup := by
      rw [hnames]
      exact hfields
    refine ⟨_, if_pos (by simpa using hlength), fun f hf => ?_⟩
    rw [Json.field?_ofFields (hkept.names.nodup hgiven)]
    refine hkept.takes hfields hgiven hf (.inr (isSome_lookup_of_mem ?_))
    rw [hnames]
    exact List.mem_map_of_mem hf
  | null | bool | int | real | str => simp [read] at h

/-- Members that the fields of a record can take are read. -/
lemma exists_readAs (hfields : (fields.map Prod.fst).Nodup) (hgiven : (given.map Prod.fst).Nodup)
    (h : ∀ f ∈ fields, ∃ k, Takes f.2 (given.lookup f.1) k) : ∃ kept, ReadAs fields given kept := by
  have hone : ∀ g ∈ given, ∃ k, readField fields g.1 g.2 = .ok k := by
    intro g hg
    by_cases hmem : g.1 ∈ fields.map Prod.fst
    · obtain ⟨f, hf, hname⟩ := List.mem_map.1 hmem
      have hlookup : given.lookup f.1 = some g.2 :=
        (lookup_eq_some_iff_mem hgiven).2 (hname ▸ hg)
      obtain ⟨k, hk⟩ := h f hf
      rw [hlookup] at hk
      cases hk with
      | present hread => exact ⟨_, by rw [← hname, readField_of_mem hfields hf, hread]; rfl⟩
    · exact ⟨[], readField_of_notMem hmem g.2⟩
  clear h hgiven
  induction given with
  | nil => exact ⟨[], .nil⟩
  | cons g given ih =>
    obtain ⟨k, hk⟩ := hone g (by simp)
    obtain ⟨kept, hkept⟩ := ih fun g' hg' => hone g' (by simp [hg'])
    exact ⟨k :: kept, .cons hk hkept⟩

/-- **A record is read** when each of its fields can take its member. -/
theorem exists_read_record (hfields : (fields.map Prod.fst).Nodup) (hv : Json.Ordered v)
    (hgiven : members? (fields.map Prod.fst) v = some given)
    (h : ∀ f ∈ fields, ∃ k, Takes f.2 (given.lookup f.1) k) :
    ∃ r, read (.record name fields) v = .ok r := by
  cases v with
  | obj given' =>
    obtain rfl : given' = given := by simpa [members?] using hgiven
    obtain ⟨kept, hkept⟩ := exists_readAs hfields (Json.everywhere_obj.1 hv).1.nodup h
    refine ⟨_, read_record_obj_iff.2 ⟨kept, hkept, fun f hf => ?_, rfl⟩⟩
    obtain ⟨k, hk⟩ := h f hf
    cases hlookup : given'.lookup f.1 with
    | none =>
      rw [hlookup] at hk
      cases hk with
      | absent habsent => exact .inl habsent
    | some v => exact .inr rfl
  | arr items =>
    rw [members?] at hgiven
    split at hgiven
    next hcount =>
      have hlength : items.length = fields.length := by simpa using hcount
      obtain rfl : (fields.map Prod.fst).zip items = given := by simpa using hgiven
      have hnames := map_fst_zip_fields hlength
      have hgiven : (((fields.map Prod.fst).zip items).map Prod.fst).Nodup := by
        rw [hnames]
        exact hfields
      obtain ⟨kept, hkept⟩ := exists_readAs hfields hgiven h
      exact ⟨_, (read_record_arr_iff hfields).2 ⟨hlength, kept, hkept, rfl⟩⟩
    next => cases hgiven
  | null | bool | int | real | str => cases hgiven

lemma isNull_of_read_record (hfields : (fields.map Prod.fst).Nodup)
    (h : read (.record name fields) v = .ok r) : r.isNull = false := by
  cases v with
  | obj given =>
    obtain ⟨kept, -, -, rfl⟩ := read_record_obj_iff.1 h
    rfl
  | arr items =>
    obtain ⟨-, kept, -, rfl⟩ := (read_record_arr_iff hfields).1 h
    rfl
  | null | bool | int | real | str => simp [read] at h

lemma ordered_of_members {names : List String} (hv : Json.Ordered v)
    (h : members? names v = some given) {n : String} {w : Json} (hw : given.lookup n = some w) :
    Json.Ordered w := by
  have hmem := mem_of_lookup_eq_some hw
  cases v with
  | obj given' =>
    obtain rfl : given' = given := by simpa [members?] using h
    exact (Json.everywhere_obj.1 hv).2 _ hmem
  | arr items =>
    rw [members?] at h
    split at h
    · obtain rfl : names.zip items = given := by simpa using h
      exact (Json.everywhere_arr.1 hv).2 w (List.of_mem_zip hmem).2
    · cases h
  | null | bool | int | real | str => cases h

/-- **A record read into a type of its own.**  `Means` says what the members have to be for a
thing of this type; it is enough to know that its fields can take such members, that what they take
is seen as a thing with these members, and that no two things have the same members. -/
theorem exists_read_record_iff {α : Type} {view : Json → α}
    {Means : (String → Option Json) → α → Prop} (hfields : (fields.map Prod.fst).Nodup)
    (htakes : ∀ member a, (∀ n w, member n = some w → Json.Ordered w) → Means member a →
      ∀ f ∈ fields, ∃ k, Takes f.2 (member f.1) k)
    (hview : ∀ member r, (∀ n w, member n = some w → Json.Ordered w) →
      (∀ f ∈ fields, Takes f.2 (member f.1) (r.field? f.1)) → Means member (view r))
    (hunique : ∀ member a b, Means member a → Means member b → a = b)
    (hv : Json.Ordered v) (a : α) :
    (∃ r, read (.record name fields) v = .ok r ∧ view r = a)
      ↔ ∃ given, members? (fields.map Prod.fst) v = some given ∧ Means (given.lookup ·) a := by
  constructor
  · rintro ⟨r, hr, rfl⟩
    obtain ⟨given, hgiven, htaken⟩ := takes_of_read_record hfields hv hr
    exact ⟨given, hgiven, hview _ r (fun _ _ => ordered_of_members hv hgiven) htaken⟩
  · rintro ⟨given, hgiven, ha⟩
    have hordered : ∀ n w, given.lookup n = some w → Json.Ordered w :=
      fun _ _ => ordered_of_members hv hgiven
    have hread : ∃ r, read (.record name fields) v = .ok r :=
      exists_read_record hfields hv hgiven (htakes _ a hordered ha)
    obtain ⟨r, hr⟩ := hread
    obtain ⟨given', hgiven', htaken⟩ := takes_of_read_record hfields hv hr
    obtain rfl : given = given' := by simpa [hgiven] using hgiven'
    exact ⟨r, hr, hunique _ _ _ (hview _ r hordered htaken) ha⟩

/-! ## Single forms -/

/-- An optional member as it is kept: null is as good as absent. -/
def unlessNull (member : Option Json) : Option Json := member.filter (!·.isNull)

variable {member kept : Option Json}

lemma unlessNull_eq_some_iff {v : Json} :
    unlessNull member = some v ↔ member = some v ∧ v.isNull = false := by
  simp [unlessNull, Option.filter_eq_some_iff]

lemma takes_text_iff :
    Takes .text member kept ↔ ∃ s, member = some (.str s) ∧ kept = some (.str s) := by
  constructor
  · rintro (h | @⟨v, r, h⟩)
    · cases h
    · cases v with
      | str s =>
        obtain rfl : .str s = r := by simpa [read] using h
        exact ⟨s, rfl, rfl⟩
      | _ => simp [read] at h
  · rintro ⟨s, rfl, rfl⟩
    exact .present (r := .str s) (by rw [read])

lemma takes_any_iff : Takes .any member kept ↔ ∃ v, member = some v ∧ kept = some v := by
  constructor
  · rintro (h | @⟨v, r, h⟩)
    · cases h
    · obtain rfl : v = r := by simpa [read] using h
      exact ⟨v, rfl, rfl⟩
  · rintro ⟨v, rfl, rfl⟩
    exact .present (r := v) (by rw [read])

/-- Whether a whole number fits into 32 bits. -/
def Fits32 (n : Int) : Prop := -Decimal.limit31 ≤ n ∧ n < Decimal.limit31

instance (n : Int) : Decidable (Fits32 n) :=
  inferInstanceAs (Decidable (-Decimal.limit31 ≤ n ∧ n < Decimal.limit31))

lemma read_integer32 (n : Int) : read .integer32 (.int n) = .ok (.int n) ↔ Fits32 n := by
  have hbound : n < Decimal.limit31 ↔ n ≤ Decimal.limit31 - 1 := by omega
  rw [read, readWhole, Fits32, hbound]
  simp

lemma takes_integer32_iff : Takes .integer32 member kept ↔
    ∃ n, member = some (.int n) ∧ Fits32 n ∧ kept = some (.int n) := by
  constructor
  · rintro (h | @⟨v, r, h⟩)
    · cases h
    · cases v with
      | int n =>
        have hr : .int n = r := by
          rw [read, readWhole] at h
          split at h
          · simpa using h
          · cases h
        subst hr
        exact ⟨n, rfl, (read_integer32 n).1 h, rfl⟩
      | _ => simp [read, readWhole] at h
  · rintro ⟨n, rfl, hn, rfl⟩
    exact .present (r := .int n) ((read_integer32 n).2 hn)

lemma isNull_eq_false_iff {v : Json} : v.isNull = false ↔ v ≠ .null := by
  cases v <;> simp [Json.isNull]

/-- An optional member is taken when it is absent, null, or of the form. -/
lemma takes_optional_iff : Takes (.optional form) member kept ↔
    (unlessNull member = none ∧ kept = none) ∨
      ∃ v r, unlessNull member = some v ∧ read form v = .ok r ∧ kept = unlessNull (some r) := by
  have hkeep (r : Json) : keep (.optional form) r = unlessNull (some r) := by
    cases r <;> rfl
  constructor
  · rintro (h | @⟨v, r, h⟩)
    · exact .inl ⟨rfl, rfl⟩
    · by_cases hv : v = .null
      · subst hv
        obtain rfl : .null = r := by simpa [read] using h
        exact .inl ⟨rfl, rfl⟩
      · rw [read] at h
        · exact .inr ⟨v, r, unlessNull_eq_some_iff.2 ⟨rfl, isNull_eq_false_iff.2 hv⟩, h, hkeep r⟩
        · exact hv
  · rintro (⟨hnone, rfl⟩ | ⟨v, r, hv, hr, rfl⟩)
    · cases member with
      | none => exact .absent rfl
      | some v =>
        obtain rfl : v = .null := by
          by_contra hne
          simp [unlessNull, isNull_eq_false_iff.2 hne] at hnone
        exact .present (r := .null) (by rw [read])
    · obtain ⟨rfl, hnull⟩ := unlessNull_eq_some_iff.1 hv
      rw [← hkeep]
      refine .present ?_
      rw [read]
      · exact hr
      · exact isNull_eq_false_iff.1 hnull

lemma takes_optional_any_iff :
    Takes (.optional .any) member kept ↔ kept = unlessNull member := by
  rw [takes_optional_iff]
  cases hmember : unlessNull member with
  | none => simp
  | some v =>
    have hv := (unlessNull_eq_some_iff.1 hmember).2
    have hkept : unlessNull (some v) = some v := unlessNull_eq_some_iff.2 ⟨rfl, hv⟩
    simp [read, hkept]

end ServerLink.Shape
