import Mathlib
import ServerLink.Proofs.Frame.Decode
import ServerLink.Proofs.Text.Blank
import ServerLink.Proofs.Text.Decimal
import ServerLink.Proofs.Text.Lossy

/-!
# What a header block says

A header block is read as text, cut into lines, cut at colons, trimmed, compared without regard to
case and read as a number.  Said of the bytes themselves it is one sentence: the first line that
names the length decides.

**Lines.**  `Gives line value` is what it takes for a line of bytes to give a length.
`lengthValue?_decodeLossy_iff` is the equivalence with the search in the text, and
`findSome?_lines` shows that the way the text is cut at its line feeds makes no difference.

**Reading.**  `Says lines result` has a case for each thing that can come of a block, and
`readLength_eq_iff` shows that it is what the block is read as.

**Editing.**  `Edits` does one thing to the lines that must not matter.  Each leaves the first value
given as it was (`Edits.firstGiven_eq`), hence so does any number of them.

**Bounds.**  `Fits` says where the body of an accepted length stands in the buffer.

* **`readLength_grammar`** — all of this, for every block.
-/

namespace ServerLink.Frame

/-! ## Lines -/

/-- The line names a length: its name, the text in front of its first colon, is the one that counts,
and `value` stands behind the colon. -/
def Gives (line : Bytes) (value : List Char) : Prop :=
  ∃ name rest, line = name ++ 0x3A :: rest ∧ 0x3A ∉ name
    ∧ Text.sameIgnoringCase (Text.trim (Utf8.decodeLossy name)) lengthName = true
    ∧ value = Text.trim (Utf8.decodeLossy rest)

/-- The lines of a block, its line feeds left out. -/
def linesOf (block : Bytes) : List Bytes := block.splitOn 0x0A

lemma mark_colon : Utf8.Mark 0x3A := ⟨by decide, by decide⟩

lemma mark_feed : Utf8.Mark 0x0A := ⟨by decide, by decide⟩

lemma splitAtFirst_decodeLossy {name : Bytes} (h : 0x3A ∉ name) (rest : Bytes) :
    Text.splitAtFirst ':' (Utf8.decodeLossy (name ++ 0x3A :: rest))
      = some (Utf8.decodeLossy name, Utf8.decodeLossy rest) := by
  rw [Utf8.decodeLossy_append_cons mark_colon.lt]
  exact Text.splitAtFirst_eq_some_iff.2 ⟨rfl, mt (Utf8.mem_decodeLossy_iff mark_colon).1 h⟩

/-- The search in the text of a line finds what the line gives. -/
lemma lengthValue?_decodeLossy_iff {line : Bytes} {value : List Char} :
    lengthValue? (Utf8.decodeLossy line) = some value ↔ Gives line value := by
  constructor
  · intro h
    rw [lengthValue?] at h
    split at h
    · rename_i before after hsplit
      have hcolon : (0x3A : UInt8) ∈ line := by
        rw [← Utf8.mem_decodeLossy_iff mark_colon, (Text.splitAtFirst_eq_some_iff.1 hsplit).1]
        exact List.mem_append_right _ List.mem_cons_self
      obtain ⟨name, rest, rfl, hname⟩ := List.eq_append_cons_of_mem hcolon
      rw [splitAtFirst_decodeLossy hname, Option.some.injEq, Prod.mk.injEq] at hsplit
      obtain ⟨rfl, rfl⟩ := hsplit
      rw [Option.ite_none_right_eq_some, Option.some.injEq] at h
      exact ⟨name, rest, rfl, hname, h.1, h.2.symm⟩
    · cases h
  · rintro ⟨name, rest, rfl, hname, hsame, rfl⟩
    rw [lengthValue?, splitAtFirst_decodeLossy hname]
    exact if_pos hsame

lemma lengthValue?_decodeLossy_none {line : Bytes} (h : ∀ value, ¬ Gives line value) :
    lengthValue? (Utf8.decodeLossy line) = none :=
  Option.eq_none_iff_forall_ne_some.2 fun value hv => h value (lengthValue?_decodeLossy_iff.1 hv)

/-- A carriage return at the end of a line is white space around its value. -/
lemma lengthValue?_dropReturn (line : List Char) :
    lengthValue? (Text.dropReturn line) = lengthValue? line := by
  rw [Text.dropReturn]
  split
  · rename_i hlast
    obtain ⟨front, rfl⟩ := List.getLast?_eq_some_iff.1 hlast
    rw [List.dropLast_concat]
    by_cases hcolon : ':' ∈ front
    · obtain ⟨name, rest, rfl, hname⟩ := List.eq_append_cons_of_mem hcolon
      have hshort : Text.splitAtFirst ':' (name ++ ':' :: rest) = some (name, rest) :=
        Text.splitAtFirst_eq_some_iff.2 ⟨rfl, hname⟩
      have hlong : Text.splitAtFirst ':' (name ++ ':' :: rest ++ ['\r'])
          = some (name, rest ++ ['\r']) :=
        Text.splitAtFirst_eq_some_iff.2 ⟨by simp, hname⟩
      have htrim : Text.trim (rest ++ ['\r']) = Text.trim rest :=
        Text.trim_append_right (List.forall_mem_singleton.2 (by decide)) rest
      simp only [lengthValue?, hshort, hlong, htrim]
    · have hlong : ':' ∉ front ++ ['\r'] := by simp [hcolon]
      simp only [lengthValue?, Text.splitAtFirst_of_notMem hcolon,
        Text.splitAtFirst_of_notMem hlong]
  · rfl

/-- Nothing is lost or found by the way a text is cut at its line feeds. -/
lemma findSome?_lines (text : List Char) :
    (Text.lines text).findSome? lengthValue? = (Text.splitOn '\n' text).findSome? lengthValue? := by
  have hdrop : ∀ pieces : List (List Char),
      (pieces.map Text.dropReturn).findSome? lengthValue? = pieces.findSome? lengthValue? := by
    intro pieces
    rw [List.findSome?_map]
    congr 1
    exact funext lengthValue?_dropReturn
  rw [Text.lines]
  split
  · rename_i hlast
    obtain ⟨front, hpieces⟩ := List.getLast?_eq_some_iff.1 hlast
    rw [hpieces, List.dropLast_concat, hdrop, List.findSome?_append]
    simp [lengthValue?, Text.splitAtFirst]
  · rename_i hlast
    rw [List.getLast?_eq_none_iff.1 hlast]
    rfl
  · rename_i last _ hlast
    obtain ⟨front, hpieces⟩ := List.getLast?_eq_some_iff.1 hlast
    rw [hpieces, List.dropLast_concat, List.findSome?_append, List.findSome?_append, hdrop]

/-! ## Reading -/

/-- The value that the first of the lines gives that gives any. -/
def firstGiven (lines : List Bytes) : Option (List Char) :=
  lines.findSome? fun line => lengthValue? (Utf8.decodeLossy line)

/-- What the value of the line that decides comes to. -/
def judged : Option (List Char) → Except FrameError Nat
  | none => .error (.missingLength "Missing Content-Length header")
  | some value =>
    match Decimal.natBelow? Decimal.limit64 value with
    | none => .error (.badLength (String.ofList value))
    | some n => if limit < n then .error (.tooLarge n limit) else .ok n

lemma readLength_eq_judged (block : Bytes) :
    readLength (Utf8.decodeLossy block) = judged (firstGiven (linesOf block)) := by
  have hfirst : (Text.lines (Utf8.decodeLossy block)).findSome? lengthValue?
      = firstGiven (linesOf block) := by
    have hcut : Text.splitOn '\n' (Utf8.decodeLossy block)
        = (linesOf block).map Utf8.decodeLossy := Utf8.splitOn_decodeLossy mark_feed block
    rw [findSome?_lines, hcut, List.findSome?_map]
    rfl
  rw [readLength, hfirst]
  rfl

/-- The first of the lines that gives a length gives `value`. -/
def Decides (lines : List Bytes) (value : List Char) : Prop :=
  ∃ before line after, lines = before ++ line :: after
    ∧ (∀ l ∈ before, ∀ v, ¬ Gives l v) ∧ Gives line value

/-- What comes of a header block with these lines. -/
inductive Says (lines : List Bytes) : Except FrameError Nat → Prop where
  | missing (h : ∀ line ∈ lines, ∀ value, ¬ Gives line value) :
      Says lines (.error (.missingLength "Missing Content-Length header"))
  | length {value : List Char} {n : Nat} (h : Decides lines value) (hn : Decimal.Numeral value n)
      (hle : n ≤ 16777216) : Says lines (.ok n)
  | tooLarge {value : List Char} {n : Nat} (h : Decides lines value) (hn : Decimal.Numeral value n)
      (hlow : 16777216 < n) (hhigh : n < 2 ^ 64) : Says lines (.error (.tooLarge n 16777216))
  | bad {value : List Char} (h : Decides lines value)
      (hbad : ∀ n, Decimal.Numeral value n → 2 ^ 64 ≤ n) :
      Says lines (.error (.badLength (String.ofList value)))

lemma firstGiven_eq_some_iff {lines : List Bytes} {value : List Char} :
    firstGiven lines = some value ↔ Decides lines value := by
  rw [firstGiven, List.findSome?_eq_some_iff]
  constructor
  · rintro ⟨before, line, after, rfl, hline, hbefore⟩
    refine ⟨before, line, after, rfl, fun l hl v hv => ?_, lengthValue?_decodeLossy_iff.1 hline⟩
    exact absurd (hbefore l hl) (by simp [lengthValue?_decodeLossy_iff.2 hv])
  · rintro ⟨before, line, after, rfl, hbefore, hline⟩
    exact ⟨before, line, after, rfl, lengthValue?_decodeLossy_iff.2 hline,
      fun l hl => lengthValue?_decodeLossy_none (hbefore l hl)⟩

lemma firstGiven_eq_none_iff {lines : List Bytes} :
    firstGiven lines = none ↔ ∀ line ∈ lines, ∀ value, ¬ Gives line value := by
  rw [firstGiven, List.findSome?_eq_none_iff]
  constructor
  · intro h line hline value hv
    exact absurd (h line hline) (by simp [lengthValue?_decodeLossy_iff.2 hv])
  · exact fun h line hline => lengthValue?_decodeLossy_none (h line hline)

lemma natBelow?_eq_none_iff {value : List Char} :
    Decimal.natBelow? Decimal.limit64 value = none
      ↔ ∀ n, Decimal.Numeral value n → 2 ^ 64 ≤ n := by
  rw [Option.eq_none_iff_forall_ne_some]
  refine forall_congr' fun n => ?_
  rw [Ne, Decimal.natBelow?_eq_some_iff, not_and, not_lt]
  rfl

lemma says_judged (lines : List Bytes) : Says lines (judged (firstGiven lines)) := by
  cases hfirst : firstGiven lines with
  | none => exact .missing (firstGiven_eq_none_iff.1 hfirst)
  | some value =>
    have hdecides := firstGiven_eq_some_iff.1 hfirst
    rw [judged]
    split
    · rename_i hnone
      exact .bad hdecides (natBelow?_eq_none_iff.1 hnone)
    · rename_i n hsome
      obtain ⟨hn, hbound⟩ := Decimal.natBelow?_eq_some_iff.1 hsome
      split
      · rename_i hlarge
        exact .tooLarge hdecides hn hlarge hbound
      · rename_i hsmall
        exact .length hdecides hn (not_lt.1 hsmall)

lemma Says.eq_judged {lines : List Bytes} {result : Except FrameError Nat} (h : Says lines result) :
    result = judged (firstGiven lines) := by
  have hlimit : limit = 16777216 := rfl
  have hbound : Decimal.limit64 = 2 ^ 64 := rfl
  cases h with
  | missing h => rw [firstGiven_eq_none_iff.2 h, judged]
  | length h hn hle =>
    have hread := Decimal.natBelow?_eq_some_iff.2 ⟨hn, show _ < Decimal.limit64 by omega⟩
    simp only [firstGiven_eq_some_iff.2 h, judged, hread, hlimit, if_neg (not_lt.2 hle)]
  | tooLarge h hn hlow hhigh =>
    have hread := Decimal.natBelow?_eq_some_iff.2 ⟨hn, show _ < Decimal.limit64 by omega⟩
    simp only [firstGiven_eq_some_iff.2 h, judged, hread, hlimit, if_pos hlow]
  | bad h hbad => simp only [firstGiven_eq_some_iff.2 h, judged, natBelow?_eq_none_iff.2 hbad]

/-- **The first line that gives a length decides what a block is read as.** -/
theorem readLength_eq_iff {block : Bytes} {result : Except FrameError Nat} :
    readLength (Utf8.decodeLossy block) = result ↔ Says (linesOf block) result := by
  rw [readLength_eq_judged]
  exact ⟨fun h => h ▸ says_judged _, fun h => h.eq_judged.symm⟩

/-- Blanks, letters in either case and a sign make no difference, and a later line is not read. -/
example : readLength "no colon\r\n content-LENGTH\t: +16777216 \r\nContent-Length: x".toList
    = .ok 16777216 := by rfl

/-! ## Editing -/

/-- A blank or a tab. -/
def IsPad (b : UInt8) : Prop := b = 0x20 ∨ b = 0x09

/-- One change to the lines of a block: a line more that gives no length, such a line and its
neighbour in the other order, a name in other letters, or blanks around a name and a value.  The
value ends in front of the carriage return if its line has one. -/
inductive Edits : List Bytes → List Bytes → Prop where
  | add {before after : List Bytes} {line : Bytes} (hline : ∀ value, ¬ Gives line value) :
      Edits (before ++ after) (before ++ line :: after)
  | swap {before after : List Bytes} {line next : Bytes} (hline : ∀ value, ¬ Gives line value) :
      Edits (before ++ line :: next :: after) (before ++ next :: line :: after)
  | recase {before after : List Bytes} {name name' rest : Bytes} (hname : 0x3A ∉ name)
      (hsame : Text.sameIgnoringCase (Utf8.decodeLossy name) (Utf8.decodeLossy name') = true) :
      Edits (before ++ (name ++ 0x3A :: rest) :: after) (before ++ (name' ++ 0x3A :: rest) :: after)
  | pad {before after : List Bytes} {name value ending p q r s : Bytes} (hname : 0x3A ∉ name)
      (hending : ending = [] ∨ ending = [0x0D]) (hpad : ∀ b ∈ p ++ q ++ r ++ s, IsPad b) :
      Edits (before ++ (name ++ 0x3A :: (value ++ ending)) :: after)
        (before ++ (p ++ name ++ q ++ 0x3A :: (r ++ value ++ s ++ ending)) :: after)

section Edits

variable {p q : Bytes} (hp : ∀ b ∈ p, IsPad b) (hq : ∀ b ∈ q, IsPad b)

lemma IsPad.ascii {b : UInt8} (h : IsPad b) : b.toNat < 0x80 := by
  rcases h with rfl | rfl <;> decide

lemma IsPad.blank {b : UInt8} (h : IsPad b) : Text.isBlank (Utf8.char b) = true := by
  rcases h with rfl | rfl <;> decide

include hp hq in
lemma trim_decodeLossy_pad (bs : Bytes) :
    Text.trim (Utf8.decodeLossy (p ++ bs ++ q)) = Text.trim (Utf8.decodeLossy bs) := by
  have hblank : ∀ {pad : Bytes}, (∀ b ∈ pad, IsPad b) →
      ∀ c ∈ pad.map Utf8.char, Text.isBlank c = true := by
    intro pad hpad c hc
    obtain ⟨b, hb, rfl⟩ := List.mem_map.1 hc
    exact (hpad b hb).blank
  rw [Utf8.decodeLossy_append_pad fun b hb => (hq b hb).ascii,
    Utf8.decodeLossy_pad_append fun b hb => (hp b hb).ascii,
    Text.trim_append_right (hblank hq), Text.trim_append_left (hblank hp)]

lemma trim_decodeLossy_ending {ending : Bytes} (h : ending = [] ∨ ending = [0x0D]) (bs : Bytes) :
    Text.trim (Utf8.decodeLossy (bs ++ ending)) = Text.trim (Utf8.decodeLossy bs) := by
  rcases h with rfl | rfl
  · rw [List.append_nil]
  · have hblank : ∀ c ∈ [(0x0D : UInt8)].map Utf8.char, Text.isBlank c = true :=
      List.forall_mem_singleton.2 (by decide)
    rw [Utf8.decodeLossy_append_pad (List.forall_mem_singleton.2 (by decide)),
      Text.trim_append_right hblank]

/-- What a line gives is known from its name and from what stands behind the first colon. -/
lemma lengthValue?_of_cut {name rest : Bytes} (h : 0x3A ∉ name) :
    lengthValue? (Utf8.decodeLossy (name ++ 0x3A :: rest))
      = if Text.sameIgnoringCase (Text.trim (Utf8.decodeLossy name)) lengthName
        then some (Text.trim (Utf8.decodeLossy rest)) else none := by
  rw [lengthValue?, splitAtFirst_decodeLossy h]

end Edits

/-- A change to one line matters only by what the line gives. -/
lemma firstGiven_line {line line' : Bytes} (before after : List Bytes)
    (h : lengthValue? (Utf8.decodeLossy line) = lengthValue? (Utf8.decodeLossy line')) :
    firstGiven (before ++ line :: after) = firstGiven (before ++ line' :: after) := by
  simp only [firstGiven, List.findSome?_append, List.findSome?_cons, h]

/-- No edit changes the first value given. -/
lemma Edits.firstGiven_eq {lines lines' : List Bytes} (h : Edits lines lines') :
    firstGiven lines = firstGiven lines' := by
  cases h with
  | add hline =>
    simp only [firstGiven, List.findSome?_append, List.findSome?_cons,
      lengthValue?_decodeLossy_none hline]
  | swap hline =>
    simp only [firstGiven, List.findSome?_append, List.findSome?_cons,
      lengthValue?_decodeLossy_none hline]
  | @recase before after name name' rest hname hsame =>
    have hcolon : (0x3A : UInt8) ∉ name' := by
      rw [← Utf8.mem_decodeLossy_iff mark_colon] at hname ⊢
      exact Text.notMem_of_sameIgnoringCase (by decide) hsame hname
    refine firstGiven_line before after ?_
    rw [lengthValue?_of_cut hname, lengthValue?_of_cut hcolon,
      Text.sameIgnoringCase_trim_congr hsame]
  | @pad before after name value ending p q r s hname hending hpad =>
    simp only [List.mem_append, or_imp, forall_and] at hpad
    obtain ⟨⟨⟨hp, hq⟩, hr⟩, hs⟩ := hpad
    have hcolon : (0x3A : UInt8) ∉ p ++ name ++ q := by
      have hno : ∀ {pad : Bytes}, (∀ b ∈ pad, IsPad b) → (0x3A : UInt8) ∉ pad :=
        fun h hmem => absurd (h _ hmem) (by simp [IsPad])
      simp only [List.mem_append, not_or]
      exact ⟨⟨hno hp, hname⟩, hno hq⟩
    refine firstGiven_line before after ?_
    rw [lengthValue?_of_cut hname, lengthValue?_of_cut hcolon, trim_decodeLossy_pad hp hq,
      trim_decodeLossy_ending hending, trim_decodeLossy_ending hending, trim_decodeLossy_pad hr hs]

lemma firstGiven_eq_of_eqvGen {lines lines' : List Bytes} (h : Relation.EqvGen Edits lines lines') :
    firstGiven lines = firstGiven lines' := by
  induction h with
  | rel lines lines' h => exact h.firstGiven_eq
  | refl lines => rfl
  | symm lines lines' _ ih => exact ih.symm
  | trans lines lines' lines'' _ _ ih ih' => exact ih.trans ih'

/-! ## Bounds -/

/-- Where the body of a length that was accepted stands in a buffer. -/
structure Fits (buffer block rest : Bytes) (n : Nat) : Prop where
  limit : n ≤ 16777216
  start : block.length + 4 ≤ buffer.length
  available : buffer.length - (block.length + 4) = rest.length
  /-- No buffer has more bytes than a signed number of 64 bits counts. -/
  sum : buffer.length < 2 ^ 63 → block.length + 4 + n < 2 ^ 64
  waits : rest.length < n → take buffer = .incomplete
  consumes : n ≤ rest.length → block.length + 4 + n ≤ buffer.length
    ∧ take buffer = .whole ((buffer.drop (block.length + 4)).take n)
        (buffer.drop (block.length + 4 + n))

lemma fits_of_readLength {buffer block rest : Bytes} {n : Nat} (hs : Splits buffer block rest)
    (hn : readLength (Utf8.decodeLossy block) = .ok n) : Fits buffer block rest n := by
  have hlimit : n ≤ 16777216 := by
    cases readLength_eq_iff.1 hn with
    | length _ _ hle => exact hle
  have hlength : buffer.length = block.length + 4 + rest.length := by
    rw [hs.cut, List.length_append, List.length_append]
    rfl
  have hdrop : ∀ k, buffer.drop (block.length + 4 + k) = rest.drop k := by
    intro k
    have hfront : (block ++ separator).length = block.length + 4 := List.length_append
    rw [hs.cut, ← hfront, List.drop_length_add_append]
  have htake : take buffer = if rest.length < n then .incomplete
      else .whole (rest.take n) (rest.drop n) := by
    rw [take, cutBlock?_nil_iff.2 hs]
    simp only [hn]
  refine ⟨hlimit, by omega, by omega, fun _ => by omega, fun h => ?_, fun h => ⟨by omega, ?_⟩⟩
  · rw [htake, if_pos h]
  · have hbody : buffer.drop (block.length + 4) = rest := hdrop 0
    rw [htake, if_neg (not_lt.2 h), hbody, hdrop]

/-! ## The grammar -/

/-- What a header block says, whatever its bytes are: which line decides and what comes of it, which
changes make no difference, and where the body of an accepted length ends. -/
structure HeaderGrammar (block : Bytes) : Prop where
  reads : ∀ result, readLength (Utf8.decodeLossy block) = result ↔ Says (linesOf block) result
  edits : ∀ block', Relation.EqvGen Edits (linesOf block) (linesOf block') →
    readLength (Utf8.decodeLossy block) = readLength (Utf8.decodeLossy block')
  fits : ∀ buffer rest n, Splits buffer block rest →
    readLength (Utf8.decodeLossy block) = .ok n → Fits buffer block rest n

/-- **Every header block is read by the grammar.** -/
theorem readLength_grammar (block : Bytes) : HeaderGrammar block := by
  refine ⟨fun result => readLength_eq_iff, fun block' hedits => ?_,
    fun buffer rest n hs hn => fits_of_readLength hs hn⟩
  rw [readLength_eq_judged, readLength_eq_judged, firstGiven_eq_of_eqvGen hedits]

end ServerLink.Frame
