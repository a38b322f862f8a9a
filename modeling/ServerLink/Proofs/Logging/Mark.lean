import Mathlib
import ServerLink.Logging.Config
import ServerLink.Proofs.Path.Name
import ServerLink.Proofs.Text.Decimal

/-!
# Files that carry a mark

Processes that log to files of one name keep them apart by a mark, which is the number of the
process.  The mark goes into the name, behind the stem, so that the file stays in its directory and
keeps its extension.

* `Gap` — where a mark goes: what of a name stands in front of it, and what behind it.
* `exists_gap` — a file with a mark has the name that the gap says, whatever the mark.
* **`marks_apart`** — what follows for a path of text and the numbers of processes.
-/

namespace ServerLink.LogConfig

open ServerLink.Path (dot slash IsName cutAtDot)

variable {text : String} {n stem tail : Bytes}

/-! ## The gap -/

/-- What stands in front of a mark in the name of a file and what stands behind it.  A dot with
nothing behind it is not kept. -/
inductive Gap (n : Bytes) : (extension : Option Bytes) → (stem tail : Bytes) → Prop where
  | whole : Gap n none n []
  | bare {stem : Bytes} (h : n = stem ++ [dot]) : Gap n (some []) stem []
  | extended {stem extension : Bytes} (h : n = stem ++ dot :: extension) (hne : extension ≠ [])
      (hdot : dot ∉ extension) : Gap n (some extension) stem (dot :: extension)

/-- The name of a file with a mark. -/
def fill (stem mark tail : Bytes) : Bytes := stem ++ dot :: (mark ++ tail)

lemma ofString_opening {cs : List Char} (mark : String) :
    Utf8.ofString (Utf8.toStringLossy (Utf8.encode cs) ++ "." ++ mark)
      = Utf8.encode cs ++ dot :: Utf8.ofString mark := by
  have hdot : Utf8.ofString "." = [dot] := by decide
  rw [Utf8.toStringLossy, Utf8.decodeLossy_encode, Utf8.ofString_append, Utf8.ofString_append,
    Utf8.ofString_ofList, hdot, List.append_assoc, List.singleton_append]

/-- Without an extension, or with an empty one, the mark comes last. -/
lemma withMark_last {p : Path} {front : List Char} (mark : String)
    (hstem : p.stem? = some (Utf8.encode front)) (h : ∀ e, p.extension? = some e → e = []) :
    withMark mark p = p.withFileName (fill (Utf8.encode front) (Utf8.ofString mark) []) := by
  rw [withMark, hstem, fill, List.append_nil, ← ofString_opening]
  cases hextension : p.extension? with
  | none => rfl
  | some e =>
    obtain rfl : e = [] := h e hextension
    rfl

/-- An extension of some text comes behind the mark. -/
lemma withMark_before {p : Path} {front back : List Char} (mark : String)
    (hstem : p.stem? = some (Utf8.encode front)) (h : p.extension? = some (Utf8.encode back))
    (hne : back ≠ []) : withMark mark p
      = p.withFileName (fill (Utf8.encode front) (Utf8.ofString mark)
        (dot :: Utf8.encode back)) := by
  have htext : Utf8.toString? (Utf8.encode back) = some (String.ofList back) := by
    rw [← Utf8.ofString_ofList, Utf8.toString?_ofString]
  have hwritten : Utf8.ofString ("." ++ String.ofList back) = dot :: Utf8.encode back := by
    rw [Utf8.ofString_append, Utf8.ofString_ofList back]
    rfl
  have hgiven : String.ofList back ≠ "" := mt String.ofList_eq.1 hne
  rw [withMark, hstem, h, Option.bind_some, htext]
  dsimp only
  split
  · next hempty => exact absurd (Option.some.inj hempty) hgiven
  · next hnone => cases hnone
  · next e _ he =>
    rw [← Option.some.inj he, ofString_opening, hwritten, fill, List.append_assoc, List.cons_append]

/-- **A mark goes into the gap** of the name, whatever the mark. -/
lemma exists_gap (h : (Path.ofString text).fileName? = some n) :
    ∃ stem tail, Gap n (Path.ofString text).extension? stem tail ∧ stem ≠ []
      ∧ ∀ mark, withMark mark (Path.ofString text)
        = (Path.ofString text).withFileName (fill stem (Utf8.ofString mark) tail) := by
  obtain ⟨cs, rfl⟩ := Path.exists_text_of_fileName? h
  have hname := Path.isName_of_mem_components (Path.mem_components_of_fileName? h)
  rcases Path.cutAtDot_cases (Utf8.encode cs) with hcut | ⟨stem, extension, hn, hne, hdot, hcut⟩
  · have hstem : (Path.ofString text).stem? = some (Utf8.encode cs) := by
      rw [Path.stem?, h, Option.map_some, hcut]
    have hnone : (Path.ofString text).extension? = none := by
      rw [Path.extension?, h, Option.bind_some, hcut]
    exact ⟨_, [], hnone ▸ .whole, hname.1, fun mark => withMark_last mark hstem (by simp [hnone])⟩
  · obtain ⟨front, back, -, rfl, rfl⟩ := Utf8.exists_cut Path.mark_dot hn
    have hstem : (Path.ofString text).stem? = some (Utf8.encode front) := by
      rw [Path.stem?, h, Option.map_some, hcut]
    have hextension : (Path.ofString text).extension? = some (Utf8.encode back) := by
      rw [Path.extension?, h, Option.bind_some, hcut]
    by_cases hback : back = []
    · subst hback
      have hbare : Gap (Utf8.encode cs) (some []) (Utf8.encode front) [] := .bare hn
      refine ⟨_, [], hextension ▸ hbare, hne, fun mark => withMark_last mark hstem ?_⟩
      intro e he
      rw [hextension] at he
      exact (Option.some.inj he).symm
    · have hextended := Gap.extended hn (Utf8.encode_ne_nil hback) hdot
      exact ⟨_, _, hextension ▸ hextended, hne, fun mark =>
        withMark_before mark hstem hextension hback⟩

lemma Gap.slash_notMem {extension : Option Bytes} (h : Gap n extension stem tail) (hn : slash ∉ n) :
    slash ∉ stem ∧ slash ∉ tail := by
  cases h with
  | whole => exact ⟨hn, List.not_mem_nil⟩
  | bare h =>
    rw [h, List.mem_append, not_or] at hn
    exact ⟨hn.1, List.not_mem_nil⟩
  | extended h =>
    rw [h, List.mem_append, not_or] at hn
    exact hn

/-- A name whose gap is filled can stand in a directory. -/
lemma isName_fill {mark : Bytes} (hstem : stem ≠ []) (hmark : mark ≠ [])
    (hslash : slash ∉ stem ∧ slash ∉ mark ∧ slash ∉ tail) : IsName (fill stem mark tail) := by
  have hlength : 3 ≤ (fill stem mark tail).length := by
    have hfront := List.length_pos_iff.2 hstem
    have hback := List.length_pos_iff.2 hmark
    simp only [fill, List.length_append, List.length_cons]
    omega
  have hshort : ∀ short : Bytes, short.length ≤ 2 → fill stem mark tail ≠ short := by
    rintro short hle rfl
    omega
  refine ⟨hshort _ (by decide), ?_, hshort _ (by decide), hshort _ (by decide)⟩
  have hdot : slash ≠ dot := by decide
  simp [fill, hslash, hdot]

lemma fill_injective (stem tail : Bytes) : Function.Injective fun mark => fill stem mark tail :=
  fun _ _ h => List.append_cancel_right (List.cons_inj_right dot |>.1 (List.append_cancel_left h))

/-! ## The numbers of processes -/

/-- The number of a process as it stands in a name. -/
def digits (number : Nat) : Bytes := Utf8.ofString (Decimal.ofNat number)

lemma digits_eq (number : Nat) : digits number = Utf8.encode (Nat.toDigits 10 number) := by
  rw [digits, Decimal.ofNat, Utf8.ofString_ofList]

lemma digits_ne_nil (number : Nat) : digits number ≠ [] := by
  rw [digits_eq]
  exact Utf8.encode_ne_nil Nat.toDigits_ne_nil

lemma slash_notMem_digits (number : Nat) : slash ∉ digits number := by
  rw [digits_eq, Utf8.mem_encode_iff Path.mark_slash]
  exact fun h => absurd (Decimal.isDigit_toDigits number _ h) (by decide)

lemma digits_injective : Function.Injective digits := fun a b h => by
  have htext := congrArg Utf8.toStringLossy h
  rw [digits, digits, Utf8.toStringLossy_ofString, Utf8.toStringLossy_ofString] at htext
  exact Decimal.ofNat_injective htext

/-- The number of a process makes a name of the gap. -/
lemma exists_filled (h : (Path.ofString text).fileName? = some n) :
    ∃ stem tail, Gap n (Path.ofString text).extension? stem tail
      ∧ ∀ number, withMark (Decimal.ofNat number) (.ofString text)
          = (Path.ofString text).withFileName (fill stem (digits number) tail)
        ∧ (withMark (Decimal.ofNat number) (.ofString text)).fileName?
          = some (fill stem (digits number) tail)
        ∧ IsName (fill stem (digits number) tail) := by
  obtain ⟨stem, tail, hgap, hstem, hmark⟩ := exists_gap h
  obtain ⟨hbefore, hbehind⟩ := hgap.slash_notMem
    (Path.isName_of_mem_components (Path.mem_components_of_fileName? h)).2.1
  refine ⟨stem, tail, hgap, fun number => ?_⟩
  have hname : IsName (fill stem (digits number) tail) :=
    isName_fill hstem (digits_ne_nil number) ⟨hbefore, slash_notMem_digits number, hbehind⟩
  have hwith := hmark (Decimal.ofNat number)
  rw [← digits] at hwith
  exact ⟨hwith, by rw [hwith, Path.fileName?_withFileName h hname], hname⟩

/-- The extension stays behind the number. -/
lemma cutAtDot_fill {mark e : Bytes} (h : dot ∉ e) :
    cutAtDot (fill stem mark (dot :: e)) = (stem ++ dot :: mark, some e) := by
  have hcut := Path.cutAtDot_append (stem ++ dot :: mark) h
  rw [if_neg (by simp)] at hcut
  rw [fill, ← hcut, List.append_assoc, List.cons_append]

/-- What is known of a file with the number of a process. -/
structure Marked (p marked : Path) (number : Nat) : Prop where
  /-- It stays in its directory. -/
  parent : ∃ q q', p.parent? = some q ∧ marked.parent? = some q' ∧ q'.same q = true
  /-- It keeps its extension, if there is something in it. -/
  extension : ∀ e, p.extension? = some e → e ≠ [] → marked.extension? = some e
  /-- Without the number and a dot its name is the old one, but for a dot at the end. -/
  name : ∃ before after, marked.fileName? = some (before ++ dot :: (digits number ++ after))
    ∧ (p.fileName? = some (before ++ after)
      ∨ p.extension? = some [] ∧ p.fileName? = some (before ++ after ++ [dot]))

/-- What is known of a path whose file is marked. -/
structure Apart (p : Path) : Prop where
  /-- Each process has a file beside the one that is named. -/
  marked : p.fileName? ≠ none → ∀ number, Marked p (withMark (Decimal.ofNat number) p) number
  /-- No two processes have the same file. -/
  apart : p.fileName? ≠ none → ∀ a b, a ≠ b →
    (withMark (Decimal.ofNat a) p).same (withMark (Decimal.ofNat b) p) = false
  /-- A path without a name stays as it is. -/
  unnamed : p.fileName? = none → ∀ mark, withMark mark p = p

/-- **Marked files do not collide and stay where they are.** -/
theorem marks_apart (text : String) : Apart (.ofString text) where
  marked hname number := by
    obtain ⟨n, hn⟩ := Option.ne_none_iff_exists'.1 hname
    obtain ⟨stem, tail, hgap, hfilled⟩ := exists_filled hn
    obtain ⟨hwith, hfile, hfill⟩ := hfilled number
    refine ⟨hwith ▸ Path.parent_withFileName hn hfill, fun e he hne => ?_, stem, tail, hfile, ?_⟩
    · rw [he] at hgap
      cases hgap with
      | bare => exact absurd rfl hne
      | extended _ _ hdot => rw [Path.extension?, hfile, Option.bind_some, cutAtDot_fill hdot]
    · rw [hn]
      generalize (Path.ofString text).extension? = e at hgap
      cases hgap with
      | whole => exact .inl (by rw [List.append_nil])
      | bare h => exact .inr ⟨rfl, by rw [List.append_nil, h]⟩
      | extended h => exact .inl (by rw [h])
  apart hname a b hne := by
    obtain ⟨n, hn⟩ := Option.ne_none_iff_exists'.1 hname
    obtain ⟨stem, tail, -, hfilled⟩ := exists_filled hn
    rw [Bool.eq_false_iff, Ne, Path.same_iff]
    intro hsame
    have ha := Path.fileName?_eq_some_iff.1 (hfilled a).2.1
    rw [hsame, Path.fileName?_eq_some_iff.1 (hfilled b).2.1, Option.some.injEq,
      Path.Component.name.injEq] at ha
    exact hne (digits_injective (fill_injective stem tail ha.symm))
  unnamed hname mark := by
    rw [withMark, Path.stem?, hname]
    rfl

/-- A name that is hidden, ends in a dot and has a slash behind it. -/
example : withMark "42" (.ofString "logs/.confit./") = .ofString "logs/.confit.42" := by
  decide +kernel

end ServerLink.LogConfig
