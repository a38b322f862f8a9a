import Mathlib
import ServerLink.Files
import ServerLink.Proofs.Lookup
import ServerLink.Proofs.Path.Components

/-!
# Walking down a tree of files

The same file is found in two ways: by following a path, links included, and by going through all
entries below a directory, links left out.

* `Sound` — a tree: each place is named once, its names can stand in a directory, and all on the way
  to it are directories.
* `follow_append` — a path is followed in two parts.
* `follow_names` and `place_of_follow` — below a place where no link stands on the way, following
  names adds them.
* `Direct` — no link is on the way from a root down to what is below it.
* **`mem_below_iff`** — the files below a root are those that a path leads to without a link.
* `exists_of_follow` — where a path leads something stands, and it is no link.
* **`isReal_iff`** — a path leads to the place that it spells just if no link is on the way and
  nothing in it turns back.
-/

namespace ServerLink.Files

open ServerLink.Path (IsName Component)

variable {t : Files} {place q names ns : List Bytes} {root : Path} {e : Entry}

/-! ## Trees -/

/-- The entries are those of a tree. -/
structure Sound (t : Files) : Prop where
  once : (t.entries.map Prod.fst).Nodup
  inside : ∀ x ∈ t.entries, x.1 ≠ [] ∧ t.find? x.1.dropLast = some .directory
  named : ∀ x ∈ t.entries, ∀ n ∈ x.1, IsName n ∧ n.length ≤ longestName

instance (t : Files) : Decidable t.Sound :=
  decidable_of_iff ((t.entries.map Prod.fst).Nodup
      ∧ (∀ x ∈ t.entries, x.1 ≠ [] ∧ t.find? x.1.dropLast = some .directory)
      ∧ ∀ x ∈ t.entries, ∀ n ∈ x.1, IsName n ∧ n.length ≤ longestName)
    ⟨fun h => ⟨h.1, h.2.1, h.2.2⟩, fun h => ⟨h.once, h.inside, h.named⟩⟩

section

variable (sound : t.Sound)
include sound

lemma Sound.find?_eq_some (hplace : place ≠ []) :
    t.find? place = some e ↔ (place, e) ∈ t.entries := by
  rw [find?, if_neg (by simpa using hplace), lookup_eq_some_iff_mem sound.once]

/-- All on the way to an entry are directories. -/
lemma Sound.directory (h : t.find? (place ++ ns) = some e) (hns : ns ≠ []) :
    t.find? place = some .directory := by
  induction ns using List.reverseRecOn generalizing e with
  | nil => exact absurd rfl hns
  | append_singleton ns n ih =>
    have hentry := (sound.find?_eq_some (by simp)).1 h
    have hparent := (sound.inside _ hentry).2
    rw [← List.append_assoc, List.dropLast_concat] at hparent
    by_cases hnil : ns = []
    · simpa [hnil] using hparent
    · exact ih hparent hnil

lemma Sound.name (h : t.find? (place ++ ns) = some e) :
    ∀ n ∈ ns, IsName n ∧ n.length ≤ longestName := by
  by_cases hns : ns = []
  · simp [hns]
  · have hentry := (sound.find?_eq_some (by simp [hns])).1 h
    exact fun n hn => sound.named _ hentry n (List.mem_append_right _ hn)

end

/-! ## Following a path -/

/-- What happens at a link when so many may be followed. -/
def through (t : Files) : Nat → List Bytes → List Component → Except SystemError (List Bytes)
  | 0 => fun _ _ => .error .tooManyLinks
  | links + 1 => t.follow links

lemma follow_eq (t : Files) (links : Nat) : t.follow links = t.walk (t.through links) := by
  cases links <;> rfl

variable {links : Nat} {first later : List Component} {r : Except SystemError (List Bytes)}

/-- **A path is followed in two parts**, if the second one leads to the same with fewer links. -/
lemma follow_append (h : t.follow links place first = .ok q)
    (hlater : ∀ fewer, t.follow fewer q later = r) :
    t.follow links place (first ++ later) = r := by
  induction links using Nat.strong_induction_on generalizing place first with
  | _ links ih =>
    rw [follow_eq] at h ⊢
    induction first generalizing place with
    | nil =>
      obtain rfl : place = q := by simpa [walk] using h
      rw [List.nil_append, ← follow_eq]
      exact hlater links
    | cons c first ihw =>
      rw [walk] at h
      rw [List.cons_append, walk]
      rcases hstep : t.step place c with e | next | target <;> simp only [hstep] at h ⊢
      · exact absurd h (by simp)
      · exact ihw h
      · cases links with
        | zero => exact absurd h (by simp [through])
        | succ links =>
          have hlink := ih links (Nat.lt_succ_self _) h
          rwa [List.append_assoc] at hlink

/-- A path leads on from where its first part leads. -/
lemma exists_of_follow_append (h : t.follow links place (first ++ later) = .ok q) :
    ∃ middle fewer, t.follow links place first = .ok middle
      ∧ t.follow fewer middle later = .ok q := by
  induction links using Nat.strong_induction_on generalizing place first with
  | _ links ih =>
    rw [follow_eq] at h ⊢
    induction first generalizing place with
    | nil => exact ⟨place, links, rfl, by rwa [follow_eq]⟩
    | cons c first ihw =>
      rw [List.cons_append, walk] at h
      rw [walk]
      rcases hstep : t.step place c with e | next | target <;> simp only [hstep] at h ⊢
      · exact absurd h (by simp)
      · exact ihw h
      · rw [← List.append_assoc] at h
        cases links with
        | zero => exact absurd h (by simp [through])
        | succ links => exact ih links (Nat.lt_succ_self _) h

/-! ## Names below a place -/

lemma step_name {n : Bytes} (hplace : t.find? place = some .directory)
    (hlength : n.length ≤ longestName) (hfind : t.find? (place ++ [n]) = some e)
    (hlink : e.isLink = false) : t.step place (.name n) = .ok (.place (place ++ [n])) := by
  rw [step, if_neg (by simpa using hplace), if_neg (by omega), hfind]
  cases e with
  | link target => simp [Entry.isLink] at hlink
  | file content => rfl
  | directory => rfl

/-- Names that lead through directories to a place where no link stands. -/
lemma follow_names (sound : t.Sound) (hfind : t.find? (place ++ names) = some e)
    (hlink : e.isLink = false) :
    t.follow links place (names.map .name) = .ok (place ++ names) := by
  rw [follow_eq]
  induction names generalizing place with
  | nil => simp [walk]
  | cons n names ih =>
    have hn := sound.name hfind n (by simp)
    have hplace := sound.directory hfind (by simp)
    rw [List.append_cons] at hfind
    have hnext : ∃ d, t.find? (place ++ [n]) = some d ∧ d.isLink = false := by
      cases names with
      | nil => exact ⟨e, by simpa using hfind, hlink⟩
      | cons m names => exact ⟨_, sound.directory hfind (by simp), rfl⟩
    obtain ⟨d, hd, hdlink⟩ := hnext
    rw [List.map_cons, walk, step_name hplace hn.2 hd hdlink]
    simpa using ih hfind

/-- Where names lead when no link stands on the way. -/
lemma place_of_follow (hclear : ∀ ns, ns ≠ [] → ns <+: names → ∀ e, t.find? (place ++ ns) = some e →
      e.isLink = false)
    (h : t.follow links place (names.map .name) = .ok q) : q = place ++ names := by
  rw [follow_eq] at h
  induction names generalizing place with
  | nil => simpa [walk, eq_comm] using h
  | cons n names ih =>
    rw [List.map_cons, walk, step] at h
    split_ifs at h
    cases hfind : t.find? (place ++ [n]) with
    | none => simp [hfind] at h
    | some e =>
      have hlink := hclear [n] (by simp) (by simp) e hfind
      have hbelow : ∀ ns, ns ≠ [] → ns <+: names →
          ∀ e, t.find? (place ++ [n] ++ ns) = some e → e.isLink = false := fun ns hns hpre e he =>
        hclear (n :: ns) (by simp) (by simpa using hpre) e (by simpa using he)
      have hrest := ih hbelow
      cases e with
      | link target => simp [Entry.isLink] at hlink
      | file content => simpa using hrest (by simpa [hfind] using h)
      | directory => simpa using hrest (by simpa [hfind] using h)

/-- Where a root leads, the names below it lead on. -/
lemma follow_below (sound : t.Sound) (hroot : t.follow mostLinks [] root.components = .ok place)
    (hfind : t.find? (place ++ names) = some e) (hlink : e.isLink = false) :
    t.follow mostLinks [] (root.components ++ names.map .name) = .ok (place ++ names) :=
  follow_append hroot fun _ => follow_names sound hfind hlink

/-! ## Below a root -/

lemma isFile_iff {p : Path} : t.isFile p = true ↔ asksDirectory p = false ∧
    ∃ place content, t.follow mostLinks [] p.components = .ok place ∧
      t.find? place = some (.file content) := by
  rw [isFile, Bool.and_eq_true, Bool.not_eq_true', content?, resolve?]
  refine and_congr_right fun _ => ?_
  cases t.follow mostLinks [] p.components with
  | error e => simp [Except.toOption]
  | ok place =>
    rcases hfind : t.find? place with - | content | - | target <;> simp [Except.toOption, hfind]

lemma asksDirectory_descend (hne : names ≠ []) (hnames : ∀ n ∈ names, IsName n) :
    asksDirectory (root.descend ⟨Path.glue names⟩) = false := by
  obtain ⟨front, hsplit⟩ := root.split_descend hne hnames
  obtain ⟨ns, n, rfl⟩ := (List.eq_nil_or_concat names).resolve_left hne
  obtain ⟨hempty, -, hdot, hup⟩ := hnames n (by simp)
  rw [asksDirectory, hsplit]
  simp [hempty, hdot, hup]

lemma isLink_descend_iff {n : Bytes} (hnames : ∀ m ∈ ns ++ [n], IsName m) :
    t.isLink (root.descend ⟨Path.glue (ns ++ [n])⟩) = true ↔
      ∃ place e, t.follow mostLinks [] (root.components ++ ns.map .name) = .ok place ∧
        t.find? (place ++ [n]) = some e ∧ e.isLink = true := by
  rw [isLink, root.components_descend hnames, List.map_append, ← List.append_assoc,
    List.map_singleton, List.getLast?_concat, List.dropLast_concat]
  cases t.follow mostLinks [] (root.components ++ ns.map .name) with
  | error e => simp
  | ok place => simp [Option.any_eq_true]

/-- No link is on the way from a root down to what is below it, and what is its own root is none. -/
def Direct (t : Files) (root : Path) (names : List Bytes) : Prop :=
  ∀ ns ∈ names.inits, (ns = [] → names = []) → t.isLink (root.descend ⟨Path.glue ns⟩) = false

instance (t : Files) (root : Path) (names : List Bytes) : Decidable (t.Direct root names) :=
  inferInstanceAs (Decidable (∀ ns ∈ names.inits, _))

section

variable (sound : t.Sound) (hnames : ∀ n ∈ names, IsName n)
include sound hnames

/-- What is reached without a link is as its place says. -/
lemma Direct.clear (hdirect : t.Direct root names)
    (hroot : t.follow mostLinks [] root.components = .ok place) (hns : ns ≠ [])
    (hpre : ns <+: names) (hfind : t.find? (place ++ ns) = some e) : e.isLink = false := by
  obtain ⟨ms, n, rfl⟩ := (List.eq_nil_or_concat ns).resolve_left hns
  rw [List.concat_eq_append] at hpre hfind
  by_contra hlink
  rw [← List.append_assoc] at hfind
  have hto := follow_below sound hroot (sound.directory hfind (by simp)) rfl
  have hno := hdirect _ ((List.mem_inits _ _).2 hpre) (by simp)
  rw [Bool.eq_false_iff] at hno
  exact hno ((isLink_descend_iff fun m hm => hnames m (hpre.subset hm)).2
    ⟨_, e, hto, hfind, by simpa using hlink⟩)

lemma direct_of_find? (hroot : t.follow mostLinks [] root.components = .ok place)
    (hfind : t.find? (place ++ names) = some e) (hlink : e.isLink = false) (hne : names ≠ []) :
    t.Direct root names := by
  intro ns hpre hns
  obtain ⟨ms, n, rfl⟩ := (List.eq_nil_or_concat ns).resolve_left fun h => hne (hns h)
  obtain ⟨later, rfl⟩ := (List.mem_inits _ _).1 hpre
  rw [List.concat_eq_append] at hfind hnames ⊢
  rw [Bool.eq_false_iff]
  intro hlinked
  obtain ⟨q, d, hq, hd, hdlink⟩ :=
    (isLink_descend_iff fun m hm => hnames m (List.mem_append_left _ hm)).1 hlinked
  have hsplit : t.find? (place ++ ms ++ ([n] ++ later)) = some e := by simpa using hfind
  have hplace : t.find? (place ++ ms) = some .directory := sound.directory hsplit (by simp)
  rw [follow_below sound hroot hplace rfl, Except.ok.injEq] at hq
  subst hq
  by_cases hlater : later = []
  · rw [hlater, List.append_nil, ← List.append_assoc, hd, Option.some.injEq] at hfind
    rw [← hfind, hdlink] at hlink
    exact absurd hlink (by simp)
  · rw [← List.append_assoc] at hfind
    rw [List.append_assoc, sound.directory hfind hlater, Option.some.injEq] at hd
    rw [← hd] at hdlink
    exact absurd hdlink (by simp [Entry.isLink])

end

@[simp] lemma descend_glue_nil (root : Path) : root.descend ⟨Path.glue []⟩ = root := rfl

lemma direct_nil_iff : t.Direct root [] ↔ t.isLink root = false := by
  simp [Direct]

lemma mem_below_of_directory (sound : t.Sound)
    (hroot : t.follow mostLinks [] root.components = .ok place)
    (hplace : t.find? place = some .directory) :
    names ∈ t.below root ↔ ∃ content, t.find? (place ++ names) = some (.file content) := by
  simp only [below, resolve?, hroot, Except.toOption, hplace, List.mem_filterMap]
  constructor
  · rintro ⟨⟨entry, e⟩, hmem, hkept⟩
    cases e with
    | file content =>
      rw [Option.ite_none_right_eq_some, List.isPrefixOf_iff_prefix] at hkept
      obtain ⟨⟨later, rfl⟩, hlater⟩ := hkept
      rw [List.drop_left, Option.some.injEq] at hlater
      subst hlater
      exact ⟨content, (sound.find?_eq_some (sound.inside _ hmem).1).2 hmem⟩
    | directory => simp at hkept
    | link target => simp at hkept
  · rintro ⟨content, hfind⟩
    have hne : place ++ names ≠ [] := fun hnil => by simp [hnil, find?] at hfind
    exact ⟨_, (sound.find?_eq_some hne).1 hfind, by simp⟩

lemma isName_of_mem_below (sound : t.Sound) (h : names ∈ t.below root) : ∀ n ∈ names, IsName n := by
  cases hroot : t.follow mostLinks [] root.components with
  | error e => simp [below, resolve?, hroot, Except.toOption] at h
  | ok place =>
    rcases hplace : t.find? place with - | content | - | target
    case some.directory =>
      obtain ⟨content, hfind⟩ := (mem_below_of_directory sound hroot hplace).1 h
      exact fun n hn => (sound.name hfind n hn).1
    case some.file =>
      obtain rfl : names = [] := by
        simp only [below, resolve?, hroot, Except.toOption, hplace] at h
        split_ifs at h <;> simp_all
      simp
    all_goals simp [below, resolve?, hroot, Except.toOption, hplace] at h

/-- **The files below a root** are those to which a path leads without a link. -/
theorem mem_below_iff (sound : t.Sound) (hnames : ∀ n ∈ names, IsName n) :
    names ∈ t.below root ↔
      t.isFile (root.descend ⟨Path.glue names⟩) = true ∧ t.Direct root names := by
  cases hroot : t.follow mostLinks [] root.components with
  | error e =>
    -- a root that leads nowhere
    refine ⟨fun h => by simp [below, resolve?, hroot, Except.toOption] at h, fun h => ?_⟩
    obtain ⟨-, q, -, hq, -⟩ := isFile_iff.1 h.1
    rw [root.components_descend hnames] at hq
    obtain ⟨middle, fewer, hmiddle, -⟩ := exists_of_follow_append hq
    exact absurd (hroot.symm.trans hmiddle) (by simp)
  | ok place =>
    by_cases hne : names = []
    · subst hne
      rw [descend_glue_nil, direct_nil_iff]
      rcases hplace : t.find? place with - | content | - | target
      case some.file => simp [below, resolve?, hroot, Except.toOption, hplace]
      case some.directory =>
        rw [mem_below_of_directory sound hroot hplace, isFile_iff]
        simp [hroot, hplace]
      all_goals
        rw [isFile_iff]
        simp [below, resolve?, hroot, Except.toOption, hplace]
    · constructor
      · intro h
        have hplace : t.find? place = some .directory := by
          rcases hplace : t.find? place with - | content | - | target
          case some.directory => rfl
          all_goals simp [below, resolve?, hroot, Except.toOption, hplace, hne] at h
        obtain ⟨content, hfind⟩ := (mem_below_of_directory sound hroot hplace).1 h
        refine ⟨isFile_iff.2 ⟨asksDirectory_descend hne hnames, _, content, ?_, hfind⟩,
          direct_of_find? sound hnames hroot hfind rfl hne⟩
        rw [root.components_descend hnames]
        exact follow_below sound hroot hfind rfl
      · rintro ⟨hfile, hdirect⟩
        obtain ⟨-, q, content, hq, hfind⟩ := isFile_iff.1 hfile
        rw [root.components_descend hnames] at hq
        obtain ⟨middle, fewer, hmiddle, hlater⟩ := exists_of_follow_append hq
        obtain rfl : place = middle := by simpa [hroot] using hmiddle
        have hplace := place_of_follow (fun ns hns hpre e he =>
          hdirect.clear sound hnames hroot hns hpre he) hlater
        subst hplace
        exact (mem_below_of_directory sound hroot (sound.directory hfind hne)).2 ⟨content, hfind⟩

/-! ## Real paths -/

lemma exists_of_step (sound : t.Sound) {next : List Bytes} {c : Component}
    (hplace : ∃ e, t.find? place = some e ∧ e.isLink = false)
    (h : t.step place c = .ok (.place next)) : ∃ e, t.find? next = some e ∧ e.isLink = false := by
  cases c with
  | root =>
    cases h
    exact ⟨_, rfl, rfl⟩
  | here =>
    rw [step] at h
    split_ifs at h
    cases h
    exact hplace
  | up =>
    rw [step] at h
    split_ifs at h with hdirectory
    cases h
    refine ⟨.directory, ?_, rfl⟩
    rcases List.eq_nil_or_concat place with rfl | ⟨front, n, rfl⟩
    · rfl
    · rw [List.concat_eq_append] at hdirectory ⊢
      rw [List.dropLast_concat]
      exact sound.directory hdirectory (by simp)
  | name n =>
    rw [step] at h
    split_ifs at h
    rcases hfind : t.find? (place ++ [n]) with - | content | - | target <;> simp only [hfind] at h
    all_goals cases h
    · exact ⟨_, hfind, rfl⟩
    · exact ⟨_, hfind, rfl⟩

/-- Where a path leads something stands, and it is no link. -/
lemma exists_of_follow (sound : t.Sound) {cs : List Component}
    (hplace : ∃ e, t.find? place = some e ∧ e.isLink = false)
    (h : t.follow links place cs = .ok q) : ∃ e, t.find? q = some e ∧ e.isLink = false := by
  induction links using Nat.strong_induction_on generalizing place cs with
  | _ links ih =>
    rw [follow_eq] at h
    induction cs generalizing place with
    | nil =>
      obtain rfl : place = q := by simpa [walk] using h
      exact hplace
    | cons c cs ihw =>
      rw [walk] at h
      rcases hstep : t.step place c with e | next | target <;> simp only [hstep] at h
      · cases h
      · exact ihw (exists_of_step sound hplace hstep) h
      · cases links with
        | zero => exact absurd h (by simp [through])
        | succ links => exact ih links (Nat.lt_succ_self _) hplace h

/-- A path that is spelled as its place: from the root by names, and no link on the way. -/
def IsReal (t : Files) (p : Path) : Prop :=
  ∃ names, p.components = .root :: names.map .name ∧
    ∀ ns, ns <+: names → ∀ e, t.find? ns = some e → e.isLink = false

/-- **A real path leads to the place that it spells**, and no other path does. -/
theorem isReal_iff (sound : t.Sound) {p : Path}
    (h : t.follow mostLinks [] p.components = .ok place) :
    t.IsReal p ↔ p.components = .root :: place.map .name := by
  have hroot : ∃ e, t.find? [] = some e ∧ e.isLink = false := ⟨_, rfl, rfl⟩
  constructor
  · rintro ⟨names, hnames, hclear⟩
    rw [hnames, follow_eq, walk] at h
    have hnames' : t.follow mostLinks [] (names.map .name) = .ok place := by rwa [follow_eq]
    rw [hnames, place_of_follow (fun ns _ hpre e he => hclear ns hpre e he) hnames',
      List.nil_append]
  · intro hp
    refine ⟨place, hp, fun ns hpre e he => ?_⟩
    obtain ⟨d, hd, hlink⟩ := exists_of_follow sound hroot h
    obtain ⟨later, rfl⟩ := hpre
    by_cases hlater : later = []
    · rw [hlater, List.append_nil, he, Option.some.injEq] at hd
      exact hd ▸ hlink
    · rw [sound.directory hd hlater, Option.some.injEq] at he
      exact he ▸ rfl

end ServerLink.Files
