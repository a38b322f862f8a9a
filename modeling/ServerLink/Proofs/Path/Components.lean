import Mathlib
import ServerLink.Path

/-!
# Components of a joined path

A path is the same as another when their components are equal, however they are spelled.  What a
directory's path and the names below it amount to is therefore said in components:

* `IsName` — a name that can stand in a directory.
* `trail` — the components of a run of bytes behind the lead of a path.
* `split_glue` — names with slashes between them are found again.
* **`components_descend`** — the path of what is below a directory has the components of the
  directory and then the names.
* **`components_of_relativeTo?`** — the other way round: what remains of a path below a directory
  has the components that stand after those of the directory.
-/

namespace ServerLink.Path

/-- A name that can stand in a directory. -/
def IsName (n : Bytes) : Prop := n ≠ [] ∧ slash ∉ n ∧ n ≠ [dot] ∧ n ≠ [dot, dot]

instance (n : Bytes) : Decidable (IsName n) := inferInstanceAs (Decidable (_ ∧ _ ∧ _ ∧ _))

lemma same_iff {p q : Path} : p.same q = true ↔ p.components = q.components := decide_eq_true_iff

/-! ## Pieces -/

lemma split_ne_nil (a : Bytes) : split a ≠ [] := by
  cases a with
  | nil => simp [split]
  | cons b rest =>
    rw [split]
    split_ifs
    · simp
    · cases split rest <;> simp

lemma split_append_slash (a b : Bytes) : split (a ++ slash :: b) = split a ++ split b := by
  induction a with
  | nil => simp [split]
  | cons c a ih =>
    rw [List.cons_append, split, split, ih]
    by_cases hc : c = slash
    · simp [hc]
    · simp only [hc, if_false]
      cases h : split a with
      | nil => exact absurd h (split_ne_nil a)
      | cons piece pieces => rfl

lemma split_of_notMem {n : Bytes} (h : slash ∉ n) : split n = [n] := by
  induction n with
  | nil => rfl
  | cons c n ih =>
    rw [List.mem_cons, not_or] at h
    rw [split, if_neg (Ne.symm h.1), ih h.2]

lemma glue_cons_cons (n m : Bytes) (names : List Bytes) :
    glue (n :: m :: names) = n ++ slash :: glue (m :: names) := by
  simp [glue, List.intercalate]

lemma split_glue {names : List Bytes} (hne : names ≠ []) (h : ∀ n ∈ names, slash ∉ n) :
    split (glue names) = names := by
  induction names with
  | nil => exact absurd rfl hne
  | cons n names ih =>
    cases names with
    | nil => simpa [glue, List.intercalate] using split_of_notMem (h n (by simp))
    | cons m names =>
      rw [glue_cons_cons, split_append_slash, split_of_notMem (h n (by simp)),
        ih (by simp) fun k hk => h k (List.mem_cons_of_mem _ hk)]
      rfl

/-- A byte in front belongs to the first piece. -/
lemma exists_split_cons {c : UInt8} (h : c ≠ slash) (a : Bytes) :
    ∃ piece more, split a = piece :: more ∧ split (c :: a) = (c :: piece) :: more := by
  cases hsplit : split a with
  | nil => exact absurd hsplit (split_ne_nil a)
  | cons piece more => exact ⟨piece, more, rfl, by rw [split, if_neg h, hsplit]⟩

lemma slash_notMem_of_mem_split {a n : Bytes} (h : n ∈ split a) : slash ∉ n := by
  induction a generalizing n with
  | nil =>
    rw [split, List.mem_singleton] at h
    simp [h]
  | cons c a ih =>
    by_cases hc : c = slash
    · rw [split, if_pos hc, List.mem_cons] at h
      rcases h with rfl | h
      · simp
      · exact ih h
    obtain ⟨piece, more, hsplit, hcons⟩ := exists_split_cons hc a
    rw [hcons] at h
    rcases List.mem_cons.1 h with rfl | h
    · rw [List.mem_cons, not_or]
      exact ⟨Ne.symm hc, ih (hsplit ▸ List.mem_cons_self)⟩
    · exact ih (hsplit ▸ List.mem_cons_of_mem _ h)

/-- The components of pieces behind the lead of a path. -/
def stepsOf (pieces : List Bytes) : List Component := (pieces.filter (!isIdle ·)).map componentOf

@[simp] lemma stepsOf_nil : stepsOf [] = [] := rfl

lemma stepsOf_cons (n : Bytes) (pieces : List Bytes) :
    stepsOf (n :: pieces) = if isIdle n then stepsOf pieces
      else componentOf n :: stepsOf pieces := by
  cases h : isIdle n <;> simp [stepsOf, h]

lemma stepsOf_append (a b : List Bytes) : stepsOf (a ++ b) = stepsOf a ++ stepsOf b := by
  simp [stepsOf]

/-- The components of bytes behind the lead of a path. -/
def trail (bytes : Bytes) : List Component := stepsOf (split bytes)

@[simp] lemma trail_nil : trail [] = [] := rfl

lemma trail_append_slash (a b : Bytes) : trail (a ++ slash :: b) = trail a ++ trail b := by
  simp [trail, split_append_slash, stepsOf_append]

lemma components_eq (p : Path) :
    p.components = p.leadComponent ++ trail (p.bytes.drop p.lead.length) :=
  rfl

lemma trail_glue_pieces {pieces : List Bytes} (h : ∀ n ∈ pieces, slash ∉ n) :
    trail (glue pieces) = stepsOf pieces := by
  cases pieces with
  | nil => rfl
  | cons m pieces => rw [trail, split_glue (List.cons_ne_nil m pieces) h]

lemma IsName.isIdle {n : Bytes} (h : IsName n) : isIdle n = false := by
  simp [Path.isIdle, h.1, h.2.2.1]

lemma stepsOf_names {names : List Bytes} (h : ∀ n ∈ names, IsName n) :
    stepsOf names = names.map .name := by
  rw [stepsOf, List.filter_eq_self.2 fun n hn => by simp [(h n hn).isIdle]]
  exact List.map_congr_left fun n hn => by simp [componentOf, (h n hn).2.2.2]

lemma trail_glue {names : List Bytes} (h : ∀ n ∈ names, IsName n) :
    trail (glue names) = names.map .name := by
  rw [trail_glue_pieces fun n hn => (h n hn).2.1, stepsOf_names h]

/-! ## Joined paths -/

/-- Bytes behind a slash add their components to those of a path that is not empty. -/
lemma components_append_slash {a : Bytes} (ha : a ≠ []) (b : Bytes) :
    components ⟨a ++ slash :: b⟩ = components ⟨a⟩ ++ trail b := by
  obtain ⟨c, a, rfl⟩ := List.exists_cons_of_ne_nil ha
  have habsolute : isAbsolute ⟨c :: a ++ slash :: b⟩ = isAbsolute ⟨c :: a⟩ := rfl
  have hhere : startsHere ⟨c :: a ++ slash :: b⟩ = startsHere ⟨c :: a⟩ := by
    cases a <;> simp [startsHere]
  have hlead : lead ⟨c :: a ++ slash :: b⟩ = lead ⟨c :: a⟩ := by
    rw [lead, lead, habsolute, hhere]
  have hlength : (lead ⟨c :: a⟩).length ≤ (c :: a).length := by
    rw [lead]
    split_ifs <;> simp
  rw [components_eq, components_eq, hlead, List.drop_append_of_le_length hlength,
    trail_append_slash, ← List.append_assoc, leadComponent, leadComponent, habsolute, hhere]

lemma components_root (b : Bytes) : components ⟨slash :: b⟩ = .root :: trail b := by
  simp [components_eq, leadComponent, lead, isAbsolute]

/-- A path that starts with a piece that means something has no lead. -/
lemma components_glue_pieces {pieces : List Bytes} (hslash : ∀ n ∈ pieces, slash ∉ n)
    (hhead : ∀ n ∈ pieces.head?, isIdle n = false) :
    components ⟨glue pieces⟩ = stepsOf pieces := by
  cases pieces with
  | nil => rfl
  | cons m pieces =>
    have hm : m ≠ [] ∧ m ≠ [dot] := by simpa [isIdle] using hhead m (by simp)
    have hnot := hslash m (by simp)
    obtain ⟨c, m, rfl⟩ := List.exists_cons_of_ne_nil hm.1
    rw [List.mem_cons, not_or] at hnot
    obtain ⟨rest, hrest⟩ : ∃ rest, glue ((c :: m) :: pieces) = c :: m ++ rest ∧
        (rest = [] ∨ ∃ later, rest = slash :: later) := by
      cases pieces with
      | nil => exact ⟨[], by simp [glue, List.intercalate], .inl rfl⟩
      | cons n pieces => exact ⟨slash :: glue (n :: pieces), glue_cons_cons _ _ _, .inr ⟨_, rfl⟩⟩
    have habsolute : isAbsolute ⟨glue ((c :: m) :: pieces)⟩ = false := by
      simp [isAbsolute, hrest.1, Ne.symm hnot.1]
    have hhere : startsHere ⟨glue ((c :: m) :: pieces)⟩ = false := by
      rw [startsHere, hrest.1]
      cases m with
      | nil =>
        have hc : c ≠ dot := fun hc => hm.2 (by rw [hc])
        rcases hrest.2 with hnil | ⟨later, hlater⟩
        · simp [hnil, hc]
        · simp [hlater, hc]
      | cons d m =>
        have hd : d ≠ slash := fun hd => hnot.2 (by simp [hd])
        simp [hd]
    rw [components_eq, leadComponent, lead, habsolute, hhere]
    exact trail_glue_pieces hslash

lemma components_glue {names : List Bytes} (h : ∀ n ∈ names, IsName n) :
    components ⟨glue names⟩ = names.map .name := by
  rw [components_glue_pieces (fun n hn => (h n hn).2.1)
    fun n hn => (h n (List.mem_of_mem_head? hn)).isIdle, stepsOf_names h]

lemma glue_ne_nil {n : Bytes} {names : List Bytes} (h : n ≠ []) : glue (n :: names) ≠ [] := by
  cases names with
  | nil => simpa [glue, List.intercalate] using h
  | cons m names => simp [glue_cons_cons]

lemma isAbsolute_glue {names : List Bytes} (h : ∀ n ∈ names, IsName n) :
    isAbsolute ⟨glue names⟩ = false := by
  have hcomponents := components_glue h
  rw [components_eq, leadComponent] at hcomponents
  by_contra habsolute
  rw [if_pos (by simpa using habsolute)] at hcomponents
  cases names <;> simp at hcomponents

/-- A path joined to one that is not empty adds its components. -/
lemma components_join {p q : Path} (hp : p.bytes ≠ []) (hq : q.isAbsolute = false) :
    (p.join q).components = p.components ++ trail q.bytes := by
  obtain ⟨bytes⟩ := p
  obtain ⟨front, last, rfl⟩ := (List.eq_nil_or_concat bytes).resolve_left hp
  rw [List.concat_eq_append, join, hq, if_neg (by simp)]
  by_cases hlast : last = slash
  · -- the slash is already there, and nothing stands behind it
    subst hlast
    rw [if_pos (by simp), List.append_assoc, List.singleton_append]
    cases front with
    | nil =>
      rw [List.nil_append, List.nil_append, components_root, components_root]
      rfl
    | cons c front =>
      rw [components_append_slash (by simp), components_append_slash (by simp), trail_nil,
        List.append_nil]
  · rw [if_neg (by simp [hlast]), components_append_slash (by simp)]

/-- **What is below a directory** has the components of the directory and then its names. -/
theorem components_descend (p : Path) {names : List Bytes} (h : ∀ n ∈ names, IsName n) :
    (p.descend ⟨glue names⟩).components = p.components ++ names.map .name := by
  cases names with
  | nil => simp [descend, glue, List.intercalate]
  | cons m names =>
    have hbytes : (glue (m :: names)).isEmpty = false := by
      simpa using glue_ne_nil (h m (by simp)).1
    rw [descend, hbytes, if_neg (by simp)]
    by_cases hp : p.bytes = []
    · rw [join, isAbsolute_glue h, if_neg (by simp), if_pos (by simp [hp]), hp]
      obtain ⟨bytes⟩ := p
      subst hp
      exact components_glue h
    · rw [components_join hp (isAbsolute_glue h), trail_glue h]

/-- The last pieces of the path of what is below a directory are its names. -/
lemma split_descend (p : Path) {names : List Bytes} (hne : names ≠ []) (h : ∀ n ∈ names, IsName n) :
    ∃ front, split (p.descend ⟨glue names⟩).bytes = front ++ names := by
  have hsplit := split_glue hne fun n hn => (h n hn).2.1
  obtain ⟨m, names, rfl⟩ := List.exists_cons_of_ne_nil hne
  have hbytes : (glue (m :: names)).isEmpty = false := by
    simpa using glue_ne_nil (h m (by simp)).1
  obtain ⟨bytes⟩ := p
  rw [descend, hbytes, if_neg (by simp), join, isAbsolute_glue h, if_neg (by simp)]
  rcases List.eq_nil_or_concat bytes with rfl | ⟨front, last, rfl⟩
  · exact ⟨[], by simpa using hsplit⟩
  rw [List.concat_eq_append]
  by_cases hlast : last = slash
  · subst hlast
    rw [if_pos (by simp), List.append_assoc, List.singleton_append, split_append_slash, hsplit]
    exact ⟨_, rfl⟩
  · rw [if_neg (by simp [hlast]), split_append_slash, hsplit]
    exact ⟨_, rfl⟩

/-! ## What remains below a directory -/

lemma below?_eq_some {base path rest : List Component} :
    below? base path = some rest ↔ path = base ++ rest := by
  fun_induction below? base path <;> grind

lemma stepsOf_of_piecesBelow? {base : List Component} {pieces rest : List Bytes}
    (h : piecesBelow? base pieces = some rest) :
    stepsOf pieces = base ++ stepsOf rest ∧ rest <:+ pieces := by
  induction pieces generalizing base with
  | nil =>
    cases base with
    | nil => exact Option.some.inj h ▸ ⟨rfl, List.suffix_rfl⟩
    | cons c base => simp [piecesBelow?] at h
  | cons n pieces ih =>
    cases base with
    | nil => exact Option.some.inj h ▸ ⟨rfl, List.suffix_rfl⟩
    | cons c base =>
      rw [piecesBelow?] at h
      rw [stepsOf_cons]
      split_ifs at h ⊢ with hidle hc
      · obtain ⟨hsteps, hsuffix⟩ := ih h
        exact ⟨hsteps, hsuffix.trans (List.suffix_cons ..)⟩
      · obtain ⟨hsteps, hsuffix⟩ := ih h
        exact ⟨by rw [hsteps, hc, List.cons_append], hsuffix.trans (List.suffix_cons ..)⟩

lemma stepsOf_dropWhile (pieces : List Bytes) :
    stepsOf (pieces.dropWhile isIdle) = stepsOf pieces := by
  induction pieces with
  | nil => rfl
  | cons n pieces ih =>
    rw [List.dropWhile_cons, stepsOf_cons]
    split_ifs with h
    · exact ih
    · rw [stepsOf_cons, if_neg h]

lemma stepsOf_reverse (pieces : List Bytes) :
    stepsOf pieces.reverse = (stepsOf pieces).reverse := by
  simp [stepsOf, List.filter_reverse]

lemma stepsOf_trimEnd (pieces : List Bytes) : stepsOf (trimEnd pieces) = stepsOf pieces := by
  rw [trimEnd, stepsOf_reverse, stepsOf_dropWhile, stepsOf_reverse, List.reverse_reverse]

lemma trimEnd_prefix_self (pieces : List Bytes) : trimEnd pieces <+: pieces := by
  rw [trimEnd, ← List.reverse_suffix, List.reverse_reverse]
  exact List.dropWhile_suffix _

lemma head?_trimEnd {pieces : List Bytes} {n : Bytes} (h : n ∈ (trimEnd pieces).head?) :
    n ∈ pieces.head? := by
  obtain ⟨later, hlater⟩ := trimEnd_prefix_self pieces
  rw [← hlater, List.head?_append, Option.mem_def.1 h]
  rfl

/-- Pieces without what means nothing at their ends are a path of their own. -/
lemma components_trimmed {pieces : List Bytes} (h : ∀ n ∈ pieces, slash ∉ n) :
    components ⟨glue (trimEnd (pieces.dropWhile isIdle))⟩ = stepsOf pieces := by
  rw [components_glue_pieces, stepsOf_trimEnd, stepsOf_dropWhile]
  · intro n hn
    exact h n (List.dropWhile_suffix _ |>.subset (trimEnd_prefix_self _ |>.subset hn))
  · intro n hn
    have hnot := List.head?_dropWhile_not isIdle pieces
    rw [head?_trimEnd hn] at hnot
    exact hnot

lemma slash_notMem_of_mem_pieces {p : Path} {n : Bytes} (h : n ∈ p.pieces) : slash ∉ n :=
  slash_notMem_of_mem_split h

lemma components_eq_stepsOf (p : Path) : p.components = p.leadComponent ++ stepsOf p.pieces := rfl

/-- A path without a lead starts with a piece that means something, if it has any bytes. -/
lemma isIdle_head_pieces {p : Path} (habsolute : p.isAbsolute = false)
    (hhere : p.startsHere = false)
    (hne : p.bytes ≠ []) : ∀ n ∈ p.pieces.head?, isIdle n = false := by
  intro n hn
  obtain ⟨c, rest, hbytes⟩ := List.exists_cons_of_ne_nil hne
  have hc : c ≠ slash := by simpa [isAbsolute, hbytes] using habsolute
  rw [pieces, lead, habsolute, hhere, hbytes] at hn
  cases rest with
  | nil =>
    obtain rfl : [c] = n := by simpa [split, hc] using hn
    simpa [startsHere, hbytes, isIdle] using hhere
  | cons d rest =>
    by_cases hd : d = slash
    · obtain rfl : [c] = n := by simpa [split, hc, hd] using hn
      simpa [startsHere, hbytes, isIdle, hd] using hhere
    · obtain ⟨piece, more, -, hfirst⟩ := exists_split_cons hd rest
      obtain ⟨_, _, hsplit, hcons⟩ := exists_split_cons hc (d :: rest)
      obtain ⟨rfl, rfl⟩ := List.cons.inj (hfirst.symm.trans hsplit)
      obtain rfl : c :: d :: piece = n := by simpa [hcons] using hn
      simp [isIdle]

/-- The bytes behind a leading dot start with a slash. -/
lemma head?_pieces_of_startsHere {p : Path} (habsolute : p.isAbsolute = false)
    (h : p.startsHere = true) : p.bytes.head? = some dot ∧ p.pieces.head? = some [] := by
  obtain ⟨bytes⟩ := p
  rw [pieces, lead, habsolute, h]
  match bytes with
  | [] => simp [startsHere] at h
  | [c] => simpa [startsHere, split] using h
  | c :: d :: more =>
    obtain ⟨rfl, rfl⟩ : c = dot ∧ d = slash := by simpa [startsHere] using h
    simp [split]

/-- The first pieces of a path, behind its lead, are a path of their own. -/
lemma components_lead_append {p : Path} {pieces : List Bytes} (h : pieces <+: p.pieces) :
    components ⟨p.lead ++ glue pieces⟩ = p.leadComponent ++ stepsOf pieces := by
  have hslash : ∀ n ∈ pieces, slash ∉ n := fun n hn => slash_notMem_of_mem_pieces (h.subset hn)
  have hhead : ∀ n ∈ pieces.head?, n ∈ p.pieces.head? := by
    obtain ⟨later, hlater⟩ := h
    intro n hn
    rw [← hlater, List.head?_append, Option.mem_def.1 hn]
    rfl
  rw [leadComponent, lead]
  cases habsolute : p.isAbsolute with
  | true =>
    refine (components_root (glue pieces)).trans ?_
    rw [trail_glue_pieces hslash]
    rfl
  | false =>
    cases hhere : p.startsHere with
    | true =>
      have hempty : ∀ n ∈ pieces.head?, n = [] := fun n hn =>
        (Option.some.inj ((head?_pieces_of_startsHere habsolute hhere).2.symm.trans
          (hhead n hn))).symm
      match pieces with
      | [] => rfl
      | [n] => rw [hempty n (by simp)]; rfl
      | n :: m :: more =>
        rw [hempty n (by simp), glue_cons_cons, List.nil_append]
        refine (components_append_slash (a := [dot]) (by simp) _).trans ?_
        rw [trail_glue_pieces fun k hk => hslash k (List.mem_cons_of_mem _ hk)]
        rfl
    | false =>
      by_cases hne : p.bytes = []
      · obtain ⟨bytes⟩ := p
        subst hne
        rcases List.sublist_singleton.1 h.sublist with rfl | rfl <;> rfl
      · exact components_glue_pieces hslash fun n hn =>
          isIdle_head_pieces habsolute hhere hne n (hhead n hn)

/-- What a path loses at its end means nothing. -/
lemma components_trimEnd (p : Path) :
    components ⟨p.lead ++ glue (trimEnd p.pieces)⟩ = p.components := by
  rw [components_lead_append (trimEnd_prefix_self _), stepsOf_trimEnd, components_eq_stepsOf]

/-- **What remains of a path below a directory** has the components after those of the directory. -/
theorem components_of_relativeTo? {p base r : Path} (h : p.relativeTo? base = some r) :
    p.components = base.components ++ r.components := by
  rw [relativeTo?] at h
  split_ifs at h with hempty
  · rw [← Option.some.inj h, components_trimEnd, List.isEmpty_iff.1 hempty, List.nil_append]
  · simp only [Option.bind_eq_some_iff, Option.map_eq_some_iff, below?_eq_some] at h
    obtain ⟨steps, hsteps, rest, hrest, rfl⟩ := h
    obtain ⟨hpieces, hsuffix⟩ := stepsOf_of_piecesBelow? hrest
    rw [components_trimmed fun n hn => slash_notMem_of_mem_pieces (hsuffix.subset hn), hsteps,
      List.append_assoc, ← hpieces, components_eq_stepsOf]

end ServerLink.Path
