import Mathlib
import ServerLink.Config
import ServerLink.Proofs.Glob.Meaning
import ServerLink.Proofs.Text.Utf8

/-!
# Patterns of an ending

A pattern `**/*` with ordinary characters behind it is meant for every file whose name ends in these
characters, wherever the file is.  The directory in front may be missing, and the star stops at a
slash; so what has to be shown is that the two together take any beginning of a path.

* `isOrdinary`, `read_everywhere` — characters that stand for themselves, and how such a pattern is
  read.
* `exists_name` — a beginning of a path is a directory with a slash and a name, or a name.
* **`accepts_everywhere_iff`** — the pattern accepts a path just if the path ends in the bytes of
  the characters, for any characters but slashes.
* **`readPattern_toml`** — the pattern of a workspace that says nothing else is that of the ending
  `.toml`.
-/

namespace ServerLink.Glob

open ServerLink.Path (slash)

variable {s : Bytes} {ending : List Char}

/-! ## Reading -/

/-- Whether a character stands for itself wherever it is met. -/
def isOrdinary (c : Char) : Bool := c ∉ ['?', '*', '[', '\x7b', '\x7d', ',', '\\']

/-- Characters that stand for themselves are read one by one. -/
lemma readFrom_ordinary (h : ∀ c ∈ ending, isOrdinary c = true) (parts : SoFar)
    (prev : Option Char) :
    readFrom parts prev ending
      = .ok { parts with current := (ending.map Token.literal).reverse ++ parts.current } := by
  induction ending generalizing parts prev with
  | nil => simp [readFrom]
  | cons c ending ih =>
    have hc : c ≠ '?' ∧ c ≠ '*' ∧ c ≠ '[' ∧ c ≠ '\x7b' ∧ c ≠ '\x7d' ∧ c ≠ ',' ∧ c ≠ '\\' := by
      simpa [isOrdinary] using h c (by simp)
    rw [readFrom, ih fun d hd => h d (List.mem_cons_of_mem _ hd)]
    · simp [SoFar.push]
    all_goals simp [hc]

/-- A pattern of any directory and a name that ends in ordinary characters. -/
lemma read_everywhere (h : ∀ c ∈ ending, isOrdinary c = true) :
    read ('*' :: '*' :: '/' :: '*' :: ending)
      = .ok (.deepStart :: .star :: ending.map .literal) := by
  -- the star is on its own, since a second one would not be ordinary
  have hstar : ∀ rest, ending ≠ '*' :: rest := by
    rintro rest rfl
    exact absurd (h '*' (by simp)) (by decide)
  have hname : readFrom ⟨[.deepStart], []⟩ (some '/') ('*' :: ending)
      = .ok ⟨(ending.map Token.literal).reverse ++ [.star, .deepStart], []⟩ := by
    rw [readFrom, readFrom_ordinary h]
    · rfl
    · exact hstar
  have hstart : readFrom ⟨[], []⟩ none ('*' :: '*' :: '/' :: '*' :: ending)
      = readFrom ⟨[.deepStart], []⟩ (some '/') ('*' :: ending) := by
    rw [readFrom]
    rfl
  simp [read, hstart, hname]

/-! ## Matching -/

lemma matchesAll_literals : MatchesAll (ending.map .literal) s ↔ s = Utf8.encode ending := by
  induction ending generalizing s with
  | nil => simp [MatchesAll]
  | cons c ending ih => simp [MatchesAll, Token.Matches, ih, Utf8.encode_cons]

/-- A beginning of a path is a directory with its slash and a name, or a name on its own. -/
lemma exists_name (a : Bytes) : ∃ directory name, a = directory ++ name ∧ slash ∉ name
    ∧ Token.deepStart.Matches directory := by
  induction a using List.reverseRecOn with
  | nil => exact ⟨[], [], rfl, List.not_mem_nil, .inl rfl⟩
  | append_singleton a b ih =>
    by_cases hb : b = slash
    · exact ⟨a ++ [b], [], by simp, List.not_mem_nil, .inr ⟨a, by rw [hb]⟩⟩
    · obtain ⟨directory, name, rfl, hname, hdirectory⟩ := ih
      exact ⟨directory, name ++ [b], by simp, by simp [hname, Ne.symm hb], hdirectory⟩

/-- **A pattern of an ending** accepts the paths with that ending and no others. -/
theorem accepts_everywhere_iff :
    accepts (.deepStart :: .star :: ending.map .literal) s = true ↔ Utf8.encode ending <:+ s := by
  rw [accepts_iff]
  simp only [List.cons.injEq, reduceCtorEq, and_false, false_or, MatchesAll, matchesAll_literals]
  constructor
  · rintro ⟨directory, -, rfl, -, name, -, rfl, -, rfl⟩
    exact ⟨directory ++ name, by simp⟩
  · rintro ⟨front, rfl⟩
    obtain ⟨directory, name, rfl, hname, hdirectory⟩ := exists_name front
    exact ⟨directory, name ++ Utf8.encode ending, by simp, hdirectory, name, _, rfl, hname, rfl⟩

/-- The text of such a pattern is read. -/
lemma ofText_everywhere {text : String} (htext : text.toList = '*' :: '*' :: '/' :: '*' :: ending)
    (h : ∀ c ∈ ending, isOrdinary c = true) :
    Pattern.ofText text = .ok ⟨text, .deepStart :: .star :: ending.map .literal⟩ := by
  rw [Pattern.ofText, htext, read_everywhere h]
  rfl

end ServerLink.Glob

namespace ServerLink.Config

/-- The ending of a TOML file. -/
def tomlEnding : Bytes := Utf8.ofString ".toml"

/-- **The usual pattern of a workspace** is one, and it accepts a path just if the bytes of the path
end in `.toml`.  So no directory need stand in front of a name, and an ending that is as long but
spelled in another way, in capitals say, is refused. -/
theorem readPattern_toml : ∃ p, readPattern tomlPattern = .ok p
    ∧ (∀ path : Path, p.accepts path = true ↔ tomlEnding <:+ path.bytes)
    ∧ (∀ name, Path.slash ∉ name → p.accepts ⟨name ++ tomlEnding⟩ = true)
    ∧ ∀ front other, other.length = tomlEnding.length → other ≠ tomlEnding →
      p.accepts ⟨front ++ other⟩ = false := by
  have hread : Glob.Pattern.ofText tomlPattern
      = .ok ⟨tomlPattern, .deepStart :: .star :: ".toml".toList.map .literal⟩ :=
    Glob.ofText_everywhere (by simp [tomlPattern]) (by simp [Glob.isOrdinary])
  have haccepts (path : Path) : Glob.Pattern.accepts
      ⟨tomlPattern, .deepStart :: .star :: ".toml".toList.map .literal⟩ path = true
        ↔ tomlEnding <:+ path.bytes := by
    rw [Glob.Pattern.accepts, Glob.accepts_everywhere_iff, tomlEnding, Utf8.ofString]
  refine ⟨_, by rw [readPattern, hread], haccepts, fun name _ => ?_, ?_⟩
  · exact (haccepts _).2 (List.suffix_append ..)
  · intro front other hlength hother
    rw [Bool.eq_false_iff, Ne, haccepts]
    intro hend
    have hsame : tomlEnding <:+ other :=
      List.suffix_of_suffix_length_le hend (List.suffix_append ..) hlength.ge
    exact hother (hsame.eq_of_length hlength.symm).symm

end ServerLink.Config
