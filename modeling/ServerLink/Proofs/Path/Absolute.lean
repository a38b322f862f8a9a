import ServerLink.Proofs.Path.Components

/-!
# Absolute paths

* `plain` — an absolute path spelled out of its components.  It is the same path, and the path
  itself when no piece of it is idle.
* `mem_plain_iff` — but for slashes and dots it has the same bytes.
* **`components_of_madeAbsolute?`** — a path seen from a working directory has the components of the
  path joined to that directory.  No link is followed and no `..` is taken back.
-/

namespace ServerLink.Path

variable {p : Path}

/-! ## The plain spelling -/

lemma bytes_componentOf (n : Bytes) : (componentOf n).bytes = n := by
  rw [componentOf]
  split_ifs with h
  · exact h.symm
  · rfl

lemma bytes_stepsOf (pieces : List Bytes) :
    (stepsOf pieces).map Component.bytes = pieces.filter (!isIdle ·) := by
  simp [stepsOf, Function.comp_def, bytes_componentOf]

lemma stepsOf_filter (pieces : List Bytes) :
    stepsOf (pieces.filter (!isIdle ·)) = stepsOf pieces := by
  simp [stepsOf]

/-- What stands between the slashes of an absolute path. -/
def steps (p : Path) : List Bytes := (p.components.drop 1).map Component.bytes

/-- An absolute path spelled out of its components. -/
def plain (p : Path) : Path := ⟨slash :: glue p.steps⟩

lemma components_of_isAbsolute (h : p.isAbsolute = true) :
    p.components = .root :: stepsOf p.pieces := by
  rw [components_eq_stepsOf, leadComponent, if_pos h]
  rfl

lemma steps_of_isAbsolute (h : p.isAbsolute = true) : p.steps = p.pieces.filter (!isIdle ·) := by
  rw [steps, components_of_isAbsolute h, List.drop_one, List.tail_cons, bytes_stepsOf]

lemma mem_steps (h : p.isAbsolute = true) {n : Bytes} (hn : n ∈ p.steps) : n ≠ [] ∧ slash ∉ n := by
  rw [steps_of_isAbsolute h, List.mem_filter] at hn
  refine ⟨?_, slash_notMem_of_mem_pieces hn.1⟩
  rintro rfl
  simp [isIdle] at hn

lemma plain_of_isAbsolute (h : p.isAbsolute = true) :
    p.plain = ⟨slash :: glue (p.pieces.filter (!isIdle ·))⟩ := by
  rw [plain, steps_of_isAbsolute h]

/-- **The plain spelling is the same path.** -/
lemma components_plain (h : p.isAbsolute = true) : p.plain.components = p.components := by
  rw [plain_of_isAbsolute h, components_root, components_of_isAbsolute h, trail_glue_pieces,
    stepsOf_filter]
  exact fun n hn => slash_notMem_of_mem_pieces (List.mem_filter.1 hn).1

/-- Absolute paths are the same just if the same stands between their slashes. -/
lemma steps_inj {q : Path} (hp : p.isAbsolute = true) (hq : q.isAbsolute = true) :
    p.steps = q.steps ↔ p.components = q.components := by
  constructor
  · intro h
    rw [← components_plain hp, ← components_plain hq, plain, plain, h]
  · intro h
    rw [steps, steps, h]

lemma glue_split (a : Bytes) : glue (split a) = a := by
  induction a with
  | nil => rfl
  | cons c a ih =>
    by_cases hc : c = slash
    · obtain ⟨piece, more, hsplit⟩ := List.exists_cons_of_ne_nil (split_ne_nil a)
      rw [split, if_pos hc, hsplit, glue_cons_cons, ← hsplit, ih, hc, List.nil_append]
    · obtain ⟨piece, more, hsplit, hcons⟩ := exists_split_cons hc a
      rw [hcons, ← ih, hsplit]
      cases more with
      | nil => simp [glue, List.intercalate]
      | cons m more => simp [glue_cons_cons]

lemma bytes_of_isAbsolute (h : p.isAbsolute = true) : p.bytes = slash :: glue p.pieces := by
  obtain ⟨bytes⟩ := p
  cases bytes with
  | nil => simp [isAbsolute] at h
  | cons c bytes =>
    obtain rfl : c = slash := by simpa [isAbsolute] using h
    rw [pieces, lead, if_pos h, glue_split]
    rfl

/-- A path without idle pieces is spelled plainly. -/
lemma plain_eq_self (h : p.isAbsolute = true) (hpieces : ∀ n ∈ p.pieces, isIdle n = false) :
    p.plain = p := by
  rw [plain_of_isAbsolute h, List.filter_eq_self.2 fun n hn => by simp [hpieces n hn],
    ← bytes_of_isAbsolute h]

lemma mem_glue_iff {b : UInt8} (hb : b ≠ slash) {pieces : List Bytes} :
    b ∈ glue pieces ↔ ∃ n ∈ pieces, b ∈ n := by
  induction pieces with
  | nil => simp [glue, List.intercalate]
  | cons n pieces ih =>
    cases pieces with
    | nil => simp [glue, List.intercalate]
    | cons m pieces => simp [glue_cons_cons, hb, ih]

/-- The plain spelling has the same bytes, but for slashes and dots. -/
lemma mem_plain_iff (h : p.isAbsolute = true) {b : UInt8} (hslash : b ≠ slash) (hdot : b ≠ dot) :
    b ∈ p.plain.bytes ↔ b ∈ p.bytes := by
  have hidle : ∀ n, isIdle n = true → b ∉ n := fun n hn hmem => by
    rcases (by simpa [isIdle] using hn : n = [] ∨ n = [dot]) with rfl | rfl
    · cases hmem
    · exact hdot (List.mem_singleton.1 hmem)
  rw [plain_of_isAbsolute h, bytes_of_isAbsolute h, List.mem_cons, List.mem_cons,
    mem_glue_iff hslash, mem_glue_iff hslash]
  refine or_congr_right ?_
  constructor
  · rintro ⟨n, hn, hmem⟩
    exact ⟨n, (List.mem_filter.1 hn).1, hmem⟩
  · rintro ⟨n, hn, hmem⟩
    refine ⟨n, List.mem_filter.2 ⟨hn, ?_⟩, hmem⟩
    rw [Bool.not_eq_true', Bool.eq_false_iff]
    exact fun hn => hidle n hn hmem

/-- A component that leads on from where it stands. -/
def Component.isStep (c : Component) : Bool := c != .root && c != .here

lemma isStep_of_mem_stepsOf {pieces : List Bytes} {c : Component} (h : c ∈ stepsOf pieces) :
    c.isStep = true ∧ isIdle c.bytes = false ∧ componentOf c.bytes = c := by
  obtain ⟨n, hn, rfl⟩ := List.mem_map.1 h
  have hidle : isIdle n = false := by simpa using (List.mem_filter.1 hn).2
  rw [componentOf]
  split_ifs with hup
  · exact ⟨rfl, rfl, rfl⟩
  · exact ⟨rfl, hidle, if_neg hup⟩

lemma isAbsolute_of_components {cs : List Component} (h : p.components = .root :: cs) :
    p.isAbsolute = true := by
  by_contra habsolute
  have hsteps : ∀ c ∈ stepsOf p.pieces, c.isStep = true := fun c hc => (isStep_of_mem_stepsOf hc).1
  rw [components_eq_stepsOf, leadComponent, if_neg habsolute] at h
  split_ifs at h with hhere
  · cases h
  · have hroot := hsteps .root (by rw [List.nil_append] at h; simp [h])
    cases hroot

lemma isAbsolute_join {home : Path} (hhome : home.isAbsolute = true) :
    (home.join p).isAbsolute = true := by
  obtain ⟨c, rest, hbytes⟩ : ∃ c rest, home.bytes = c :: rest :=
    List.exists_cons_of_ne_nil fun hnil => by simp [isAbsolute, hnil] at hhome
  rw [join]
  split_ifs with hp
  · exact hp
  all_goals simpa [isAbsolute, hbytes] using hhome

/-! ## Directories -/

/-- Names with a slash behind each. -/
def within (names : List Bytes) : Bytes := names.flatMap (· ++ [slash])

lemma within_cons (n : Bytes) (names : List Bytes) :
    within (n :: names) = n ++ slash :: within names := by
  simp [within]

lemma glue_append {names later : List Bytes} (h : later ≠ []) :
    glue (names ++ later) = within names ++ glue later := by
  induction names with
  | nil => rfl
  | cons n names ih =>
    obtain ⟨m, rest, hrest⟩ :=
      List.exists_cons_of_ne_nil (List.append_ne_nil_of_right_ne_nil names h)
    rw [List.cons_append, hrest, glue_cons_cons, ← hrest, ih, within_cons, List.append_assoc]
    rfl

lemma split_within {names : List Bytes} (h : ∀ n ∈ names, slash ∉ n) :
    split (within names) = names ++ [[]] := by
  induction names with
  | nil => rfl
  | cons n names ih =>
    rw [within_cons, split_append_slash, split_of_notMem (h n (by simp)),
      ih fun m hm => h m (List.mem_cons_of_mem _ hm)]
    rfl

lemma within_inj {a b : List Bytes} (ha : ∀ n ∈ a, slash ∉ n) (hb : ∀ n ∈ b, slash ∉ n) :
    within a = within b ↔ a = b := by
  refine ⟨fun h => ?_, fun h => by rw [h]⟩
  have hsplit := congrArg split h
  rw [split_within ha, split_within hb] at hsplit
  exact List.append_cancel_right hsplit

/-- **A path below one directory is spelled below another** just if the two are one, and the path is
not the directory itself, unless that is the root. -/
lemma glue_append_eq_iff {real root names : List Bytes} (hreal : ∀ n ∈ real, n ≠ [] ∧ slash ∉ n)
    (hroot : ∀ n ∈ root, slash ∉ n) :
    glue (real ++ names) = within root ++ glue names ↔ real = root ∧ (names ≠ [] ∨ real = []) := by
  by_cases hnames : names = []
  · subst hnames
    have hnil : glue [] = [] := rfl
    rw [List.append_nil, hnil, List.append_nil]
    constructor
    · intro h
      have hsplit := congrArg split h
      rw [split_within hroot] at hsplit
      by_cases hne : real = []
      · rw [hne, hnil] at hsplit
        have hempty : [] ++ [[]] = root ++ [[]] := hsplit
        exact ⟨hne.trans (List.append_cancel_right hempty), .inr hne⟩
      · rw [split_glue hne fun n hn => (hreal n hn).2] at hsplit
        exact absurd rfl (hreal [] (by simp [hsplit])).1
    · rintro ⟨rfl, hor⟩
      obtain rfl : real = [] := hor.resolve_left (absurd rfl)
      rfl
  · rw [glue_append hnames, List.append_left_inj, within_inj (fun n hn => (hreal n hn).2) hroot]
    simp [hnames]

/-! ## Seen from a working directory -/

lemma filter_isStep_components (p : Path) :
    p.components.filter Component.isStep = stepsOf p.pieces := by
  have hsteps : (stepsOf p.pieces).filter Component.isStep = stepsOf p.pieces :=
    List.filter_eq_self.2 fun c hc => (isStep_of_mem_stepsOf hc).1
  rw [components_eq_stepsOf, List.filter_append, hsteps, leadComponent]
  split_ifs <;> rfl

lemma trail_bytes {p : Path} (h : p.isAbsolute = false) : trail p.bytes = stepsOf p.pieces := by
  rw [pieces, lead, h, trail]
  obtain ⟨bytes⟩ := p
  cases hhere : startsHere ⟨bytes⟩ with
  | false => rfl
  | true =>
    rcases bytes with - | ⟨c, - | ⟨d, more⟩⟩
    · rfl
    · obtain rfl : c = dot := by simpa [startsHere] using hhere
      rfl
    · obtain ⟨rfl, rfl⟩ : c = dot ∧ d = slash := by simpa [startsHere] using hhere
      have hsplit : split (dot :: slash :: more) = [dot] :: split more := by
        simp [split, slash, dot]
      have hrest : split (slash :: more) = [] :: split more := by simp [split]
      simp only [hsplit, hrest, stepsOf_cons, isIdle, Bool.false_eq_true, if_false, if_true,
        List.length_singleton, List.drop_succ_cons, List.drop_zero]
      simp

lemma slash_notMem_of_mem_stepsOf {p : Path} {c : Component} (h : c ∈ stepsOf p.pieces) :
    slash ∉ c.bytes := by
  obtain ⟨n, hn, rfl⟩ := List.mem_map.1 h
  rw [componentOf]
  split_ifs
  · decide
  · exact slash_notMem_of_mem_pieces (List.mem_filter.1 hn).1

/-- Steps that are joined one after another are the components of what comes of it. -/
lemma components_foldl_join {start : Path} (hstart : start.bytes ≠ []) {steps : List Component}
    (h : ∀ c ∈ steps, slash ∉ c.bytes ∧ isIdle c.bytes = false ∧ componentOf c.bytes = c) :
    (steps.foldl (fun q c => q.join ⟨c.bytes⟩) start).bytes ≠ []
    ∧ (steps.foldl (fun q c => q.join ⟨c.bytes⟩) start).components = start.components ++ steps := by
  induction steps generalizing start with
  | nil => simpa using hstart
  | cons c steps ih =>
    obtain ⟨hslash, hidle, hc⟩ := h c List.mem_cons_self
    have hrelative : isAbsolute ⟨c.bytes⟩ = false := by
      cases hbytes : c.bytes with
      | nil => rfl
      | cons b rest =>
        rw [hbytes, List.mem_cons, not_or] at hslash
        simpa [isAbsolute] using Ne.symm hslash.1
    have hjoin : (start.join ⟨c.bytes⟩).bytes ≠ [] := by
      rw [join, hrelative, if_neg (by simp)]
      split_ifs <;> simp [hstart]
    have hone : (start.join ⟨c.bytes⟩).components = start.components ++ [c] := by
      rw [components_join hstart hrelative, trail, split_of_notMem hslash, stepsOf_cons, hidle, hc]
      rfl
    obtain ⟨hne, hrest⟩ := ih hjoin fun d hd => h d (List.mem_cons_of_mem _ hd)
    exact ⟨hne, by rw [List.foldl_cons, hrest, hone, List.append_assoc, List.singleton_append]⟩

/-- The components of a path joined to a working directory, by where it starts. -/
lemma exists_start {p home : Path} (hhome : home.isAbsolute = true) (doubled : Bool) :
    ∃ start : Path,
      start = (if !p.isAbsolute then home else if doubled then ⟨[slash, slash]⟩ else ⟨[slash]⟩)
      ∧ start.bytes ≠ [] ∧ (home.join p).components = start.components ++ stepsOf p.pieces := by
  refine ⟨_, rfl, ?_⟩
  have hhome' : home.bytes ≠ [] := fun hnil => by simp [isAbsolute, hnil] at hhome
  cases habsolute : p.isAbsolute with
  | false => exact ⟨hhome', by rw [components_join hhome' habsolute, trail_bytes habsolute]; rfl⟩
  | true =>
    rw [join, habsolute, if_pos rfl, components_eq_stepsOf, leadComponent, habsolute]
    cases doubled <;> exact ⟨by simp, rfl⟩

/-- **A path seen from a working directory** is the same as the path joined to the directory. -/
theorem components_of_madeAbsolute? {p home q : Path} (hhome : home.isAbsolute = true)
    (h : p.madeAbsolute? home = some q) : q.components = (home.join p).components := by
  obtain ⟨start, hstart, hne, hjoin⟩ := exists_start (p := p) hhome
    ([slash, slash].isPrefixOf p.bytes && !([slash, slash, slash].isPrefixOf p.bytes))
  obtain ⟨hwhole, hcomponents⟩ := components_foldl_join hne fun c (hc : c ∈ stepsOf p.pieces) =>
    ⟨slash_notMem_of_mem_stepsOf hc, (isStep_of_mem_stepsOf hc).2⟩
  have hfilter : (p.components.filter fun c => c != .root && c != .here) = stepsOf p.pieces :=
    filter_isStep_components p
  rw [madeAbsolute?] at h
  by_cases hempty : p.bytes.isEmpty
  · rw [if_pos hempty] at h
    cases h
  · rw [if_neg hempty] at h
    simp only [hfilter] at h
    rw [← hstart] at h
    rw [hjoin, ← hcomponents]
    by_cases hclosed : p.bytes.getLast? = some slash
    · rw [if_pos hclosed] at h
      rw [← Option.some.inj h, components_join hwhole rfl, trail_nil, List.append_nil]
    · rw [if_neg hclosed] at h
      rw [← Option.some.inj h]

end ServerLink.Path
