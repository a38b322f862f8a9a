import Mathlib
import ServerLink.Process.Voice

/-!
# Listening to a child

What a listener makes of the standard error of a child.

**Moves.**  `Voice.Moves v m w` says under which condition a move happens and what it leaves behind;
`moves_of_move?` that nothing else can happen.

**Books.**  Whatever a child said was taken, waits or is lost.  `Voice.Deaf` is what holds where
nobody ever listened: all is lost.  `Voice.Reads` is what holds where somebody did: nothing is lost
as long as the listener listens or has come to the end, what was taken was cut into lines, and a
listener breaks off only at a line that is no text or where the stream cannot be read.  Both are
kept by every move (`Deaf.move`, `Reads.move`).

**Progress.**  A listener that has something to do can do it (`exists_of_listenerMove?`), and each
of its moves leaves it less to do (`Moves.work_lt`).
-/

namespace ServerLink.Process.Voice

/-- A line with its end, and with no other. -/
def IsLine (line : Bytes) : Prop := ∃ body, line = body ++ [lineEnd] ∧ lineEnd ∉ body

/-- What is handed on of a line. -/
def shownText? (line : Bytes) : Option String := (lineText? line).filter (· ≠ "")

/-- What a move adds to what was said. -/
def Move.words : Move → Bytes
  | .say bytes => bytes
  | _ => []

/-- What was said where nobody ever listened. -/
structure Deaf (v : Voice) (said : Bytes) : Prop where
  ear : v.ear = .absent
  taken : v.taken = []
  waiting : v.waiting = []
  lines : v.lines = []
  lost : v.lost = said

/-- What was said where somebody listened at first, the `lines` that the listener cut it into, and
whether the stream could not be read. -/
structure Reads (v : Voice) (said : Bytes) (lines : List Bytes) (stumbled : Prop) : Prop where
  present : v.ear ≠ .absent
  /-- What was said was taken, waits or is lost. -/
  books : said = v.taken ++ v.waiting ++ v.lost
  cut : v.taken = lines.flatten ++ v.begun
  /-- Only at the end of the stream a line may lack its end. -/
  whole : ∀ line ∈ lines, IsLine line ∨ v.isOpen = false ∧ v.waiting = [] ∧ v.begun = []
  shown : v.shown = true → v.lines = lines.filterMap shownText?
  listening : v.ear = .listening → v.lost = []
  finished : v.ear = .finished → v.isOpen = false ∧ v.waiting = [] ∧ v.begun = [] ∧ v.lost = []
  broken : v.ear = .broken → stumbled ∨ ∃ line ∈ lines, lineText? line = none
  text : v.ear ≠ .broken → ∀ line ∈ lines, (lineText? line).isSome = true

/-- The move `m` turns `v` into the other voice. -/
inductive Moves (v : Voice) : Move → Voice → Prop where
  | heard (bytes : Bytes) (hopen : v.isOpen = true) (hear : v.ear = .listening) :
      Moves v (.say bytes) { v with waiting := v.waiting ++ bytes }
  | unheard (bytes : Bytes) (hopen : v.isOpen = true) (hear : v.ear ≠ .listening) :
      Moves v (.say bytes) { v with lost := v.lost ++ bytes }
  | endSpeech (hopen : v.isOpen = true) : Moves v .endSpeech { v with isOpen := false }
  | read {count : Nat} (hear : v.ear = .listening) (hbegun : lineEnd ∉ v.begun) (hpos : 0 < count)
      (hle : count ≤ v.waiting.length) :
      Moves v (.read count) { v with
        waiting := v.waiting.drop count
        begun := v.begun ++ v.waiting.take count
        taken := v.taken ++ v.waiting.take count }
  | line {body rest : Bytes} (hear : v.ear = .listening)
      (hbegun : v.begun = body ++ lineEnd :: rest)
      (hbody : lineEnd ∉ body) : Moves v .line (v.hand (body ++ [lineEnd]) rest)
  | rest (hear : v.ear = .listening) (hbegun : v.begun ≠ []) (hwaiting : v.waiting = [])
      (hopen : v.isOpen = false) : Moves v .finish (v.hand v.begun [])
  | finish (hear : v.ear = .listening) (hbegun : v.begun = []) (hwaiting : v.waiting = [])
      (hopen : v.isOpen = false) : Moves v .finish { v with ear := .finished }
  | failRead (hear : v.ear = .listening) : Moves v .failRead { v with ear := .broken }

variable {v w : Voice} {m : Move} {said line rest body : Bytes} {lines : List Bytes}
  {stumbled : Prop}

/-! ## Lines -/

lemma cutLine_append (hbody : lineEnd ∉ body) (rest : Bytes) :
    cutLine (body ++ lineEnd :: rest) = (body ++ [lineEnd], rest) := by
  have hfree : ∀ b ∈ body, (b != lineEnd) = true := fun b hb => by
    simpa using fun (h : b = lineEnd) => hbody (h ▸ hb)
  have htake : (body ++ lineEnd :: rest).takeWhile (· != lineEnd) = body := by
    rw [List.takeWhile_append_of_pos hfree, List.takeWhile_cons_of_neg (by simp), List.append_nil]
  simp [cutLine, htake]

lemma hand_text {text : String} (h : lineText? line = some text) :
    v.hand line rest = { v with
      begun := rest
      lines := v.lines ++ if v.shown then (shownText? line).toList else [] } := by
  rw [hand, h, shownText?, h]
  split
  · simp_all
  · simp_all
  · rename_i hne heq
    cases heq
    have hfilter : (some text).filter (· ≠ "") = some text :=
      Option.filter_some_pos (by simpa using hne)
    rw [hfilter]
    cases v.shown <;> simp

lemma hand_broken (h : lineText? line = none) :
    v.hand line rest = { v with begun := rest, ear := .broken } := by
  rw [hand, h]

/-! ## Moves -/

lemma isHeard_iff : v.isHeard = true ↔ v.ear = .listening := by simp [isHeard]

/-- **Whatever happens** is one of the moves, under its condition. -/
theorem moves_of_move? (h : v.move? m = some w) : Moves v m w := by
  cases m with
  | say bytes =>
    simp only [move?, Option.ite_none_left_eq_some, Bool.not_eq_true', Bool.not_eq_false] at h
    obtain ⟨hopen, h⟩ := h
    split at h
    · rename_i hheard
      cases h
      exact .heard bytes hopen (isHeard_iff.1 hheard)
    · rename_i hheard
      cases h
      exact .unheard bytes hopen fun hear => hheard (isHeard_iff.2 hear)
  | endSpeech =>
    simp only [move?, Option.ite_none_right_eq_some, Option.some.injEq] at h
    obtain ⟨hopen, rfl⟩ := h
    exact .endSpeech hopen
  | read count =>
    simp only [move?, Option.ite_none_right_eq_some, Option.some.injEq, Bool.and_eq_true,
      Bool.not_eq_true', decide_eq_true_eq, isHeard_iff, List.contains_eq_mem,
      decide_eq_false_iff_not] at h
    obtain ⟨⟨⟨⟨hear, hbegun⟩, hpos⟩, hle⟩, rfl⟩ := h
    exact .read hear hbegun hpos hle
  | line =>
    simp only [move?, Option.ite_none_right_eq_some, Option.some.injEq, Bool.and_eq_true,
      isHeard_iff, List.contains_eq_mem, decide_eq_true_eq] at h
    obtain ⟨⟨hear, hmem⟩, rfl⟩ := h
    obtain ⟨body, rest, hbegun, hbody⟩ := List.eq_append_cons_of_mem hmem
    rw [hbegun, cutLine_append hbody]
    exact .line hear hbegun hbody
  | finish =>
    simp only [move?, Option.ite_none_right_eq_some, Option.some.injEq, Bool.and_eq_true,
      Bool.not_eq_true', isHeard_iff, List.isEmpty_iff] at h
    obtain ⟨⟨⟨⟨hear, -⟩, hwaiting⟩, hopen⟩, rfl⟩ := h
    split
    · rename_i hbegun
      exact .finish hear hbegun hwaiting hopen
    · rename_i hbegun
      exact .rest hear hbegun hwaiting hopen
  | failRead =>
    simp only [move?, Option.ite_none_right_eq_some, Option.some.injEq, isHeard_iff] at h
    obtain ⟨hear, rfl⟩ := h
    exact .failRead hear

@[simp] lemma pid_hand (v : Voice) (line rest : Bytes) : (v.hand line rest).pid = v.pid := by
  rw [hand]
  split <;> rfl

/-- Only from outside a listener is silenced. -/
lemma Moves.silenced (h : Moves v m w) (hw : w.ear = .silenced) : v.ear = .silenced := by
  cases h with
  | heard | unheard | endSpeech | read => exact hw
  | line hear | rest hear =>
    rw [hand] at hw
    split at hw
    · exact absurd hw (by simp)
    · exact hw
    · exact hw
  | finish | failRead => exact absurd hw (by simp)

lemma Moves.pid (h : Moves v m w) : w.pid = v.pid := by
  cases h with
  | line | rest => exact pid_hand ..
  | _ => rfl

@[simp] lemma pid_silence (v : Voice) : v.silence.pid = v.pid := by
  rw [silence]
  split <;> rfl

/-! ## Where nobody listens -/

lemma deaf_start (pid : Nat) (shown : Bool) : (start pid false shown).Deaf [] :=
  ⟨rfl, rfl, rfl, rfl, rfl⟩

/-- **Where nobody ever listened** all is lost. -/
theorem Deaf.move (hv : v.Deaf said) (h : Moves v m w) : w.Deaf (said ++ m.words) := by
  have hear : v.ear ≠ .listening := by simp [hv.ear]
  cases h with
  | heard _ _ h | read h | line h | rest h | finish h | failRead h => exact absurd h hear
  | unheard bytes => exact ⟨hv.ear, hv.taken, hv.waiting, hv.lines, congrArg (· ++ bytes) hv.lost⟩
  | endSpeech =>
    exact ⟨hv.ear, hv.taken, hv.waiting, hv.lines, hv.lost.trans (List.append_nil _).symm⟩

lemma Deaf.silence (hv : v.Deaf said) : v.silence.Deaf said := by
  have hsame : v.silence = v := by rw [Voice.silence, hv.ear]
  rw [hsame]
  exact hv

/-! ## Where somebody listens -/

lemma reads_start (pid : Nat) (shown : Bool) : (start pid true shown).Reads [] [] False := by
  refine ⟨?_, rfl, rfl, ?_, fun _ => rfl, fun _ => rfl, ?_, ?_, ?_⟩
  all_goals simp [start]

/-- A line that the listener has cut off is handed on, or the listener breaks off at it. -/
lemma Reads.hand (hv : v.Reads said lines stumbled) (hear : v.ear = .listening)
    (hbegun : v.begun = line ++ rest)
    (hline : IsLine line ∨ v.isOpen = false ∧ v.waiting = [] ∧ rest = []) :
    (v.hand line rest).Reads said (lines ++ [line]) stumbled := by
  have hcut : v.taken = (lines ++ [line]).flatten ++ rest := by
    rw [hv.cut, hbegun, List.flatten_append, List.append_assoc]
    simp
  have hwhole : ∀ l ∈ lines ++ [line], IsLine l ∨ v.isOpen = false ∧ v.waiting = []
      ∧ rest = [] := by
    intro l hl
    rcases List.mem_append.1 hl with hl | hl
    · exact (hv.whole l hl).imp_right fun h =>
        ⟨h.1, h.2.1, (List.append_eq_nil_iff.1 (hbegun ▸ h.2.2)).2⟩
    · rwa [List.mem_singleton.1 hl]
  have hlost := hv.listening hear
  have htexts := hv.text (by simp [hear])
  cases htext : lineText? line with
  | none =>
    rw [hand_broken htext]
    refine ⟨by simp, hv.books, hcut, hwhole, fun hshown => ?_, by simp, by simp,
      fun _ => .inr ⟨line, by simp, htext⟩, by simp⟩
    rw [List.filterMap_append, ← hv.shown hshown]
    simp [shownText?, htext]
  | some text =>
    rw [hand_text htext]
    refine ⟨hv.present, hv.books, hcut, hwhole, fun hshown => ?_, fun _ => hlost,
      by simp [hear], by simp [hear], fun _ l hl => ?_⟩
    · have hshown' : v.shown = true := hshown
      show v.lines ++ _ = _
      rw [List.filterMap_append, ← hv.shown hshown', if_pos hshown']
      cases h : shownText? line <;> simp [h]
    · rcases List.mem_append.1 hl with hl | hl
      · exact htexts l hl
      · rw [List.mem_singleton.1 hl, htext]
        rfl

lemma Reads.mono {worse : Prop} (hv : v.Reads said lines stumbled) (h : stumbled → worse) :
    v.Reads said lines worse :=
  { hv with broken := fun hear => (hv.broken hear).imp_left h }

/-- The books, when a move cuts off no line and the stream can be read. -/
lemma Reads.quiet (hv : v.Reads said lines stumbled) (h : Moves v m w) (hline : m ≠ .line)
    (hfinish : m ≠ .finish) (hfails : m ≠ .failRead) :
      w.Reads (said ++ m.words) lines stumbled := by
  cases h with
  | heard bytes hopen hear =>
    refine ⟨hv.present, ?_, hv.cut, fun l hl => ?_, hv.shown, hv.listening, by simp [hear],
      hv.broken, hv.text⟩
    · rw [hv.books, hv.listening hear]
      simp [Move.words]
    · exact (hv.whole l hl).imp_right fun h => absurd h.1 (by simp [hopen])
  | unheard bytes hopen hear =>
    refine ⟨hv.present, ?_, hv.cut, fun l hl => ?_, hv.shown, fun h => absurd h hear,
      fun h => absurd (hv.finished h).1 (by simp [hopen]), hv.broken, hv.text⟩
    · rw [hv.books]
      simp [Move.words]
    · exact (hv.whole l hl).imp_right fun h => absurd h.1 (by simp [hopen])
  | endSpeech hopen =>
    refine ⟨hv.present, ?_, hv.cut, fun l hl => ?_, hv.shown, hv.listening,
      fun h => ⟨rfl, (hv.finished h).2⟩, hv.broken, hv.text⟩
    · simpa [Move.words] using hv.books
    · exact (hv.whole l hl).imp_right fun h => ⟨rfl, h.2⟩
  | @read count hear hbegun hpos hle =>
    refine ⟨hv.present, ?_, ?_, fun l hl => ?_, hv.shown, hv.listening, by simp [hear], hv.broken,
      hv.text⟩
    · simpa [Move.words] using hv.books
    · rw [hv.cut, List.append_assoc]
    · refine (hv.whole l hl).imp_right fun h => ?_
      rw [h.2.1, List.length_nil] at hle
      omega
  | line => exact absurd rfl hline
  | rest | finish => exact absurd rfl hfinish
  | failRead => exact absurd rfl hfails

/-- **Where somebody listens** the books are kept: nothing is lost before the listener breaks off or
is silenced, and it breaks off only at what is no text or cannot be read. -/
theorem Reads.move (hv : v.Reads said lines stumbled) (h : Moves v m w) :
    ∃ more, w.Reads (said ++ m.words) more (stumbled ∨ m = .failRead) := by
  have quiet : m ≠ .line → m ≠ .finish → m ≠ .failRead →
      ∃ more, w.Reads (said ++ m.words) more (stumbled ∨ m = .failRead) := fun h₁ h₂ h₃ =>
    ⟨lines, (hv.quiet h h₁ h₂ h₃).mono .inl⟩
  have nothing : said = said ++ [] := (List.append_nil said).symm
  cases h with
  | heard | unheard | endSpeech | read => exact quiet (by simp) (by simp) (by simp)
  | line hear hbegun hbody =>
    have hline : IsLine _ := ⟨_, rfl, hbody⟩
    rw [List.append_cons] at hbegun
    exact ⟨_, nothing ▸ (hv.hand hear hbegun (.inl hline)).mono Or.inl⟩
  | rest hear hbegun hwaiting hopen =>
    exact ⟨_, nothing ▸
      (hv.hand hear (List.append_nil _).symm (.inr ⟨hopen, hwaiting, rfl⟩)).mono Or.inl⟩
  | finish hear hbegun hwaiting hopen =>
    exact ⟨lines, by simp, nothing ▸ hv.books, hv.cut, hv.whole, hv.shown, by simp,
      fun _ => ⟨hopen, hwaiting, hbegun, hv.listening hear⟩, by simp,
      fun _ => hv.text (by simp [hear])⟩
  | failRead hear =>
    exact ⟨lines, by simp, nothing ▸ hv.books, hv.cut, hv.whole, hv.shown, by simp, by simp,
      fun _ => .inl (.inr rfl), by simp⟩

lemma Reads.silence (hv : v.Reads said lines stumbled) : v.silence.Reads said lines stumbled := by
  rw [Voice.silence]
  split
  · rename_i hear
    exact ⟨by simp, hv.books, hv.cut, hv.whole, hv.shown, by simp, by simp, by simp,
      fun _ => hv.text (by simp [hear])⟩
  · exact hv

/-! ## Progress -/

/-- A move of the listener. -/
def Move.isListeners : Move → Bool
  | .read _ | .line | .finish => true
  | _ => false

/-- What a listener still has to do. -/
def work (v : Voice) : Nat := 2 * v.waiting.length + v.begun.length + if v.isHeard then 1 else 0

lemma work_hand_le (v : Voice) (line rest : Bytes) :
    (v.hand line rest).work ≤ 2 * v.waiting.length + rest.length + if v.isHeard then 1 else 0 := by
  rw [hand]
  split
  · simp [work, isHeard]
  · simp [work, isHeard]
  · simp [work, isHeard]

/-- Each of its moves leaves a listener less to do. -/
lemma Moves.work_lt (h : Moves v m w) (hm : m.isListeners = true) : w.work < v.work := by
  cases h with
  | heard | unheard | endSpeech | failRead => exact absurd hm (by simp [Move.isListeners])
  | @read count hear _ hpos hle =>
    have hsame : v.isHeard = true := isHeard_iff.2 hear
    have hwaiting : (v.waiting.drop count).length = v.waiting.length - count := List.length_drop
    have htaken : (v.begun ++ v.waiting.take count).length = v.begun.length + count := by
      rw [List.length_append, List.length_take, min_eq_left hle]
    have hafter : 2 * (v.waiting.drop count).length + (v.begun ++ v.waiting.take count).length + 1
        < 2 * v.waiting.length + v.begun.length + 1 := by omega
    simpa [work, isHeard, hear] using hafter
  | @line body rest hear hbegun =>
    have hlength : v.begun.length = body.length + (rest.length + 1) := by rw [hbegun]; simp
    refine (work_hand_le v (body ++ [lineEnd]) rest).trans_lt ?_
    rw [work]
    omega
  | rest hear hbegun =>
    have hlength : 0 < v.begun.length := List.length_pos_iff.2 hbegun
    refine (work_hand_le v v.begun []).trans_lt ?_
    rw [work, List.length_nil]
    omega
  | finish hear => simp [work, isHeard, hear]

/-- A listener has more to do only where more is said. -/
lemma Moves.work_le (h : Moves v m w) :
    w.work + (if m.isListeners then 1 else 0) ≤ v.work + 2 * m.words.length := by
  cases hm : m.isListeners with
  | true => exact (h.work_lt hm).trans_le (Nat.le_add_right _ _)
  | false =>
    cases h with
    | heard bytes _ hear =>
      simp only [work, isHeard, hear, List.length_append, Move.words, Bool.false_eq_true, if_false]
      omega
    | unheard | endSpeech => simp [work, isHeard]
    | failRead =>
      simp only [work, isHeard, Bool.false_eq_true, reduceCtorEq, decide_false, if_false]
      omega
    | read | line | rest | finish => exact absurd hm (by simp [Move.isListeners])

lemma work_silence_le (v : Voice) : v.silence.work ≤ v.work := by
  rw [silence]
  split
  · simp [work, isHeard]
  · exact le_rfl

/-- **What a listener has to do it can do.** -/
theorem exists_of_listenerMove? (h : v.listenerMove? = some m) :
    m.isListeners = true ∧ ∃ w, v.move? m = some w := by
  simp only [listenerMove?] at h
  split_ifs at h with hheard hmem hwaiting hopen
  · cases h
    exact ⟨rfl, _, if_pos (by simp_all)⟩
  · cases h
    exact ⟨rfl, _, if_pos (by simp_all [List.length_pos_iff])⟩
  · cases h
    exact ⟨rfl, _, if_pos (by simp_all)⟩

/-- A listener that has nothing to do has read all there is, and waits for more. -/
lemma drained_of_listenerMove? (hear : v.ear = .listening) (h : v.listenerMove? = none) :
    v.waiting = [] ∧ v.isOpen = true := by
  simp only [listenerMove?] at h
  split_ifs at h with hheard hmem hwaiting hopen
  · simp [isHeard, hear] at hheard
  · exact ⟨by simpa using hwaiting, by simpa using hopen⟩

end ServerLink.Process.Voice
