import Mathlib
import ServerLink.Process.Pipe
import ServerLink.Proofs.History

/-!
# What a pipe carries

The bytes that go through a pipe, in either direction, whatever turns its workers take.

**Moves.**  `Pipe.Moves p m q` says under which condition a move happens and what it leaves behind;
`moves_of_move?` that nothing else can happen.

**To the child.**  What was written is the front of what was accepted, and as long as no write fails
the rest is still with the writer (`Sends`).  Once the pipe is closed the writer goes on to the end
(`exists_writerMove`) and needs a bounded number of moves for it (`countP_writers_le`); then all
that was accepted is written, and the child's input is closed.

**From the child.**  What comes of receiving is settled by the pipe alone (`Gives`): a chunk where
one was read, a wait while the reader works, and a failure otherwise.  The chunks that a program is
given (`given`) are what was received, which is the front of what the child put out; as long as the
pipe is open the rest is still on its way (`Gets`).  So a program that receives to the end has all
of it.
-/

namespace ServerLink.Process.Pipe

/-- The move `m` turns `p` into the other pipe. -/
inductive Moves (p : Pipe) : Move → Pipe → Prop where
  | send (data : Bytes) (hopen : p.connected = true) (hworks : p.writer = .working) :
      Moves p (.send data) { p with outgoing := p.outgoing ++ [data] }
  | close : Moves p .close { p with connected := false, incoming := [] }
  | receive {data : Bytes} {rest : List Bytes} (hopen : p.connected = true)
      (hincoming : p.incoming = data :: rest) : Moves p .receive { p with incoming := rest }
  | takeUp {data : Bytes} {rest : List Bytes} (hworks : p.writer = .working)
      (hholding : p.holding = []) (houtgoing : p.outgoing = data :: rest) :
      Moves p .takeUp { p with outgoing := rest, holding := data }
  | write {count : Nat} (hworks : p.writer = .working) (hpos : 0 < count)
      (hle : count ≤ p.holding.length) :
      Moves p (.write count)
        { p with holding := p.holding.drop count, input := p.input ++ p.holding.take count }
  | failWrite (hworks : p.writer = .working) :
      Moves p .failWrite { p with writer := .failed, outgoing := [], holding := [] }
  | closeInput (hworks : p.writer = .working) (hclosed : p.connected = false)
      (houtgoing : p.outgoing = [])
      (hholding : p.holding = []) : Moves p .closeInput { p with writer := .done }
  | read {count : Nat} (hreads : p.reader = .working) (hopen : p.connected = true) :
      Moves p (.read count) { p with
        output := p.output.drop count
        incoming := p.incoming ++ [p.output.take count] }
  | spill {count : Nat} (hreads : p.reader = .working) (hclosed : p.connected = false) :
      Moves p (.read count) { p with output := p.output.drop count, reader := .failed }
  | failRead (hreads : p.reader = .working) : Moves p .failRead { p with reader := .failed }
  | finish (hreads : p.reader = .working) (hended : p.outputOpen = false)
      (houtput : p.output = []) :
      Moves p .finish { p with reader := .done }
  | take {count : Nat} (hle : count ≤ p.input.length) :
      Moves p (.take count) { p with input := p.input.drop count }
  | put (data : Bytes) (hmore : p.outputOpen = true) :
      Moves p (.put data) { p with output := p.output ++ data }
  | endOutput (hmore : p.outputOpen = true) : Moves p .endOutput { p with outputOpen := false }

variable {p q : Pipe} {m : Move} {data : Bytes} {past later : List (Pipe × Move)}

/-- **Whatever happens** is one of the moves, under its condition. -/
theorem moves_of_move? (h : p.move? m = some q) : Moves p m q := by
  cases m with
  | send data =>
    simp only [move?, Option.ite_none_right_eq_some, Bool.and_eq_true, decide_eq_true_eq,
      Option.some.injEq] at h
    obtain ⟨⟨hopen, hworks⟩, rfl⟩ := h
    exact .send data hopen hworks
  | close =>
    cases h
    exact .close
  | receive =>
    simp only [move?] at h
    split at h
    · rename_i hopen hincoming
      cases h
      exact .receive hopen hincoming
    · exact absurd h (by simp)
  | takeUp =>
    simp only [move?] at h
    split at h
    · rename_i hworks hholding houtgoing
      cases h
      exact .takeUp hworks hholding houtgoing
    · exact absurd h (by simp)
  | write count =>
    simp only [move?, Option.ite_none_right_eq_some, Bool.and_eq_true, decide_eq_true_eq,
      Option.some.injEq] at h
    obtain ⟨⟨⟨hworks, hpos⟩, hle⟩, rfl⟩ := h
    exact .write hworks hpos hle
  | failWrite =>
    simp only [move?, Option.ite_none_right_eq_some, Bool.and_eq_true, decide_eq_true_eq,
      Option.some.injEq] at h
    obtain ⟨⟨hworks, -⟩, rfl⟩ := h
    exact .failWrite hworks
  | closeInput =>
    simp only [move?, Option.ite_none_right_eq_some, Bool.and_eq_true, decide_eq_true_eq,
      Bool.not_eq_true', List.isEmpty_iff, Option.some.injEq] at h
    obtain ⟨⟨⟨⟨hworks, hclosed⟩, houtgoing⟩, hholding⟩, rfl⟩ := h
    exact .closeInput hworks hclosed houtgoing hholding
  | read count =>
    simp only [move?, Option.ite_none_right_eq_some, Bool.and_eq_true, decide_eq_true_eq] at h
    -- what is read for a reader who has closed is lost
    obtain ⟨⟨⟨⟨hreads, -⟩, -⟩, -⟩, h⟩ := h
    split at h
    · rename_i hopen
      cases h
      exact .read hreads hopen
    · rename_i hclosed
      cases h
      exact .spill hreads (by simpa using hclosed)
  | failRead =>
    simp only [move?, Option.ite_none_right_eq_some, Option.some.injEq] at h
    obtain ⟨hreads, rfl⟩ := h
    exact .failRead hreads
  | finish =>
    simp only [move?, Option.ite_none_right_eq_some, Bool.and_eq_true, decide_eq_true_eq,
      Bool.not_eq_true', List.isEmpty_iff, Option.some.injEq] at h
    obtain ⟨⟨⟨hreads, hended⟩, houtput⟩, rfl⟩ := h
    exact .finish hreads hended houtput
  | take count =>
    simp only [move?, Option.ite_none_right_eq_some, Option.some.injEq] at h
    obtain ⟨hle, rfl⟩ := h
    exact .take hle
  | put data =>
    simp only [move?, Option.ite_none_right_eq_some, Option.some.injEq] at h
    obtain ⟨hmore, rfl⟩ := h
    exact .put data hmore
  | endOutput =>
    simp only [move?, Option.ite_none_right_eq_some, Option.some.injEq] at h
    obtain ⟨hmore, rfl⟩ := h
    exact .endOutput hmore

/-! ## Accounts -/

/-- What a move adds to what was accepted. -/
def accepts : Move → Bytes
  | .send data => data
  | _ => []

/-- What a move writes into the child's input. -/
def writes (p : Pipe) : Move → Bytes
  | .write count => p.holding.take count
  | _ => []

/-- What a move adds to what was received. -/
def receives (p : Pipe) : Move → Bytes
  | .receive => p.incoming.headD []
  | _ => []

/-- The chunk that the program is given in a move. -/
def gives (p : Pipe) : Move → Option Bytes
  | .receive => p.receive.2.chunk?
  | _ => none

/-- What a move adds to what the child put out. -/
def puts : Move → Bytes
  | .put data => data
  | _ => []

/-- What the pipe accepted for the child. -/
def accepted (past : List (Pipe × Move)) : Bytes := past.flatMap fun x => accepts x.2

/-- What was written into the child's input. -/
def written (past : List (Pipe × Move)) : Bytes := past.flatMap fun x => x.1.writes x.2

/-- What was received. -/
def received (past : List (Pipe × Move)) : Bytes := past.flatMap fun x => x.1.receives x.2

/-- The chunks that the program was given, in order. -/
def given (past : List (Pipe × Move)) : List Bytes := past.filterMap fun x => x.1.gives x.2

/-- What the child put out. -/
def produced (past : List (Pipe × Move)) : Bytes := past.flatMap fun x => puts x.2

/-- What comes of receiving, and the pipe after it. -/
inductive Gives (p : Pipe) : Pipe × Receipt → Prop where
  /-- The first chunk that was read is given away. -/
  | chunk {data : Bytes} {rest : List Bytes} {q : Pipe} (hopen : p.connected = true)
      (hincoming : p.incoming = data :: rest) (hmove : p.move? .receive = some q) :
      Gives p (q, .chunk data)
  /-- There is none yet. -/
  | waiting (hopen : p.connected = true) (hincoming : p.incoming = [])
      (hreads : p.reader = .working) :
      Gives p (p, .waiting)
  /-- There is none, and there will be none. -/
  | failed (hnone : p.connected = true → p.incoming = [] ∧ p.reader ≠ .working) :
      Gives p (p, .failed .disconnected)

/-- Of what was accepted for the child, this was written. -/
structure Sends (p : Pipe) (accepted written : Bytes) : Prop where
  first : written <+: accepted
  rest : p.writer ≠ .failed → accepted = written ++ p.holding ++ p.outgoing.flatten
  done : p.writer = .done → p.connected = false ∧ p.holding = [] ∧ p.outgoing = []

/-- Of what the child produced, this was received. -/
structure Gets (p : Pipe) (produced received : Bytes) : Prop where
  first : received <+: produced
  rest : p.connected = true → produced = received ++ p.incoming.flatten ++ p.output
  done : p.reader = .done → p.outputOpen = false ∧ p.output = []

section Accounts

variable {acc wri pro rec : Bytes}

lemma sends_start : start.Sends [] [] := ⟨List.prefix_rfl, fun _ => rfl, nofun⟩

lemma gets_start : start.Gets [] [] := ⟨List.prefix_rfl, fun _ => rfl, nofun⟩

lemma Sends.quiet (hp : p.Sends acc wri) (hwriter : q.writer = p.writer)
    (hholding : q.holding = p.holding) (houtgoing : q.outgoing = p.outgoing)
    (hclosed : p.connected = false → q.connected = false) : q.Sends (acc ++ []) (wri ++ []) := by
  rw [List.append_nil, List.append_nil]
  refine ⟨hp.first, fun hw => ?_, fun hw => ?_⟩
  · rw [hholding, houtgoing]
    exact hp.rest (hwriter ▸ hw)
  · rw [hholding, houtgoing]
    exact ⟨hclosed (hp.done (hwriter ▸ hw)).1, (hp.done (hwriter ▸ hw)).2⟩

/-- Once the writer is done all that was accepted is written. -/
lemma Sends.written_eq (hp : p.Sends acc wri) (hdone : p.writer = .done) : wri = acc := by
  obtain ⟨-, hholding, houtgoing⟩ := hp.done hdone
  have hrest := hp.rest (by simp [hdone])
  rw [hholding, houtgoing] at hrest
  simpa using hrest.symm

/-- Once the reader is done and nothing is left all that the child put out is received. -/
lemma Gets.received_eq (hp : p.Gets pro rec) (hopen : p.connected = true)
    (hincoming : p.incoming = []) (hdone : p.reader = .done) : rec = pro := by
  have hrest := hp.rest hopen
  rw [hincoming, (hp.done hdone).2] at hrest
  simpa using hrest.symm

/-- **Every move keeps the account** of what goes to the child. -/
theorem Moves.sends (h : Moves p m q) (hp : p.Sends acc wri) :
    q.Sends (acc ++ accepts m) (wri ++ p.writes m) := by
  cases h with
  | close => exact hp.quiet rfl rfl rfl fun _ => rfl
  | receive | read | spill | failRead | finish | take | put | endOutput =>
    exact hp.quiet rfl rfl rfl id
  | send data hopen hworks =>
    show Sends _ (acc ++ data) (wri ++ [])
    rw [List.append_nil]
    refine ⟨hp.first.trans (List.prefix_append _ _), fun _ => ?_, by simp [hworks]⟩
    rw [hp.rest (by simp [hworks])]
    simp
  | @takeUp data rest hworks hholding houtgoing =>
    show Sends _ (acc ++ []) (wri ++ [])
    rw [List.append_nil, List.append_nil]
    refine ⟨hp.first, fun _ => ?_, by simp [hworks]⟩
    rw [hp.rest (by simp [hworks]), hholding, houtgoing]
    simp
  | @write count hworks hpos hle =>
    have hrest := hp.rest (by simp [hworks])
    have hsplit : acc = wri ++ p.holding.take count ++ p.holding.drop count
        ++ p.outgoing.flatten := by
      rw [List.append_assoc wri, List.take_append_drop, hrest]
    show Sends _ (acc ++ []) (wri ++ p.holding.take count)
    rw [List.append_nil]
    refine ⟨⟨p.holding.drop count ++ p.outgoing.flatten, ?_⟩, fun _ => hsplit, by simp [hworks]⟩
    rw [← List.append_assoc, ← hsplit]
  | failWrite =>
    show Sends _ (acc ++ []) (wri ++ [])
    rw [List.append_nil, List.append_nil]
    exact ⟨hp.first, by simp, by simp⟩
  | closeInput hworks hclosed houtgoing hholding =>
    show Sends _ (acc ++ []) (wri ++ [])
    rw [List.append_nil, List.append_nil]
    exact ⟨hp.first, fun _ => hp.rest (by simp [hworks]), fun _ => ⟨hclosed, hholding, houtgoing⟩⟩

lemma Gets.quiet (hp : p.Gets pro rec) (hopen : q.connected = p.connected)
    (hincoming : q.incoming = p.incoming) (houtput : q.output = p.output)
    (hmore : p.outputOpen = false → q.outputOpen = false) (hreader : q.reader = p.reader) :
    q.Gets (pro ++ []) (rec ++ []) := by
  rw [List.append_nil, List.append_nil]
  refine ⟨hp.first, fun hconn => ?_, fun hr => ?_⟩
  · rw [hincoming, houtput]
    exact hp.rest (hopen ▸ hconn)
  · rw [houtput]
    exact ⟨hmore (hp.done (hreader ▸ hr)).1, (hp.done (hreader ▸ hr)).2⟩

/-- **Every move keeps the account** of what comes from the child. -/
theorem Moves.gets (h : Moves p m q) (hp : p.Gets pro rec) :
    q.Gets (pro ++ puts m) (rec ++ p.receives m) := by
  cases h with
  | send | takeUp | write | failWrite | closeInput | take => exact hp.quiet rfl rfl rfl id rfl
  | endOutput => exact hp.quiet rfl rfl rfl (fun _ => rfl) rfl
  | close =>
    show Gets _ (pro ++ []) (rec ++ [])
    rw [List.append_nil, List.append_nil]
    exact ⟨hp.first, by simp, hp.done⟩
  | @receive data rest hopen hincoming =>
    -- bytes go from the child to the chunks and from there to the reader, and none changes its
    -- place
    have hall : pro = rec ++ data ++ rest.flatten ++ p.output := by
      rw [hp.rest hopen, hincoming]
      simp
    have hreceived : p.receives .receive = data := by rw [receives, hincoming, List.headD_cons]
    show Gets _ (pro ++ []) (rec ++ p.receives .receive)
    rw [hreceived, List.append_nil]
    refine ⟨⟨rest.flatten ++ p.output, ?_⟩, fun _ => hall, hp.done⟩
    rw [← List.append_assoc, ← hall]
  | @read count hreads hopen =>
    show Gets _ (pro ++ []) (rec ++ [])
    rw [List.append_nil, List.append_nil]
    refine ⟨hp.first, fun _ => ?_, by simp [hreads]⟩
    rw [hp.rest hopen]
    simp
  | spill hreads hclosed =>
    show Gets _ (pro ++ []) (rec ++ [])
    rw [List.append_nil, List.append_nil]
    exact ⟨hp.first, by simp [hclosed], by simp⟩
  | failRead =>
    show Gets _ (pro ++ []) (rec ++ [])
    rw [List.append_nil, List.append_nil]
    exact ⟨hp.first, hp.rest, by simp⟩
  | finish hreads hended houtput =>
    show Gets _ (pro ++ []) (rec ++ [])
    rw [List.append_nil, List.append_nil]
    exact ⟨hp.first, hp.rest, fun _ => ⟨hended, houtput⟩⟩
  | put data hmore =>
    show Gets _ (pro ++ data) (rec ++ [])
    rw [List.append_nil]
    refine ⟨hp.first.trans (List.prefix_append _ _), fun hopen => ?_, fun hdone => ?_⟩
    · rw [hp.rest hopen]
      simp
    · exact absurd (hp.done hdone).1 (by simp [hmore])

end Accounts

/-! ## Runs -/

lemma sends_of_history (run : History move? .start past p) :
    p.Sends (accepted past) (written past) := by
  induction run with
  | start => exact sends_start
  | step _ next ih => simpa [accepted, written] using (moves_of_move? next).sends ih

lemma gets_of_history (run : History move? .start past p) :
    p.Gets (produced past) (received past) := by
  induction run with
  | start => exact gets_start
  | step _ next ih => simpa [produced, received] using (moves_of_move? next).gets ih

/-- A writer that failed has failed at a write. -/
lemma failed_of_history (run : History move? .start past p) (hfailed : p.writer = .failed) :
    ∃ x ∈ past, x.2 = .failWrite := by
  by_contra hnone
  push Not at hnone
  refine run.stays (P := fun u => u.writer ≠ .failed) (by simp [start])
    (fun hmem next hu => ?_) hfailed
  cases moves_of_move? next with
  | failWrite => exact absurd rfl (hnone _ hmem)
  | closeInput => simp
  | _ => exact hu

/-- A reader of an open pipe that failed could not read the child's output. -/
lemma stumbled_of_history (run : History move? .start past p) (hopen : p.connected = true)
    (hfailed : p.reader = .failed) : ∃ x ∈ past, x.2 = .failRead := by
  by_contra hnone
  push Not at hnone
  have hreader : p.connected = true → p.reader ≠ .failed :=
    run.stays (P := fun u => u.connected = true → u.reader ≠ .failed) (by simp [start])
      fun hmem next hu => by
        cases moves_of_move? next with
        | close => simp
        | spill _ hclosed => simp [hclosed]
        | failRead => exact absurd rfl (hnone _ hmem)
        | finish => simp
        | _ => exact hu
  exact hreader hopen hfailed

/-! ## After the pipe is closed -/

lemma Moves.closed (h : Moves p m q) (hclosed : p.connected = false) : q.connected = false := by
  cases h with
  | close => rfl
  | _ => exact hclosed

/-- A pipe that is closed takes and gives nothing any more. -/
lemma refuses_of_closed (hclosed : p.connected = false) :
    (∀ data, p.send data = (p, some .disconnected)) ∧ p.receive = (p, .failed .disconnected) := by
  simp [send, receive, hclosed]

/-- A move of the writer. -/
def Move.isWriters : Move → Bool
  | .takeUp | .write _ | .failWrite | .closeInput => true
  | _ => false

/-- What the writer of a closed pipe still has to do. -/
def work (p : Pipe) : Nat :=
  if p.writer = .working then p.holding.length + (p.outgoing.map fun c => c.length + 1).sum + 1
    else 0

lemma work_of_working (hworks : p.writer = .working) :
    p.work = p.holding.length + (p.outgoing.map fun c => c.length + 1).sum + 1 := if_pos hworks

/-- Each of its moves leaves the writer of a closed pipe less to do, and nothing leaves it more. -/
lemma Moves.work_le (h : Moves p m q) (hclosed : p.connected = false) :
    q.work + (if m.isWriters then 1 else 0) ≤ p.work := by
  cases h with
  | send _ hopen | receive hopen | read _ hopen => exact absurd hclosed (by simp [hopen])
  | close | spill | failRead | finish | take | put | endOutput => exact le_rfl
  | @takeUp data rest hworks hholding houtgoing =>
    have hpicked : ({ p with outgoing := rest, holding := data } : Pipe).work
        = data.length + (rest.map fun c => c.length + 1).sum + 1 := work_of_working hworks
    rw [hpicked, work_of_working hworks, hholding, houtgoing, List.map_cons, List.sum_cons,
      List.length_nil]
    simp only [Move.isWriters, if_true]
    omega
  | @write count hworks hpos hle =>
    have hwritten : ({ p with
          holding := p.holding.drop count
          input := p.input ++ p.holding.take count } : Pipe).work
        = (p.holding.length - count) + (p.outgoing.map fun c => c.length + 1).sum + 1 := by
      rw [← List.length_drop]
      exact work_of_working hworks
    rw [hwritten, work_of_working hworks]
    simp only [Move.isWriters, if_true]
    omega
  | failWrite hworks | closeInput hworks =>
    rw [work_of_working hworks]
    simp [work, Move.isWriters]

/-- **The writer of a closed pipe can go on** until it is done. -/
lemma exists_writerMove (hclosed : p.connected = false) (hworks : p.writer = .working) :
    ∃ m q, p.writerMove? true = some m ∧ p.move? m = some q ∧ m.isWriters = true
      ∧ m ≠ .failWrite := by
  have hnext : p.writerMove? true = some (if !p.holding.isEmpty then .write p.holding.length
      else if !p.outgoing.isEmpty then .takeUp else .closeInput) := by
    simp only [writerMove?, hworks, hclosed, bne_self_eq_false, Bool.false_eq_true, if_false,
      Bool.not_false, if_true]
    split_ifs <;> rfl
  rw [hnext]
  cases hholding : p.holding with
  | cons b held =>
    exact ⟨.write (b :: held).length, _, rfl,
      if_pos (by simp [hworks, hholding]), rfl, by simp⟩
  | nil =>
    cases houtgoing : p.outgoing with
    | cons data rest =>
      exact ⟨.takeUp, { p with outgoing := rest, holding := data }, rfl,
        by simp [move?, hworks, hholding, houtgoing], rfl, by simp⟩
    | nil =>
      exact ⟨.closeInput, { p with writer := .done }, rfl,
        by simp [move?, hworks, hclosed, hholding, houtgoing], rfl, by simp⟩

lemma stays_closed (hclosed : p.connected = false) (h : History move? p later q) :
    q.connected = false :=
  h.invariant (P := fun u => u.connected = false) hclosed fun next => (moves_of_move? next).closed

/-- **The writer of a closed pipe** makes a bounded number of moves. -/
lemma countP_writers_le (hclosed : p.connected = false) (h : History move? p later q) :
    (later.countP fun x => x.2.isWriters) + q.work ≤ p.work := by
  induction h with
  | start => exact le_of_eq (Nat.zero_add _)
  | step run next ih =>
    have hless := (moves_of_move? next).work_le (stays_closed hclosed run)
    rw [List.countP_append, List.countP_singleton]
    dsimp only
    omega

/-- The writer accepts nothing. -/
lemma accepted_of_writers {later : List (Pipe × Move)} (hall : ∀ x ∈ later, x.2.isWriters = true) :
    accepted later = [] :=
  List.flatMap_eq_nil_iff.2 fun x hx => by
    have hwriters := hall x hx
    cases hm : x.2 with
    | send => simp [hm, Move.isWriters] at hwriters
    | _ => rfl

/-- A closed pipe is written out, when its writes succeed. -/
lemma exists_done (hclosed : p.connected = false) (hwriter : p.writer ≠ .failed) :
    ∃ later q, History move? p later q ∧ q.writer = .done ∧
      ∀ x ∈ later, x.2.isWriters = true ∧ x.2 ≠ .failWrite := by
  induction hwork : p.work using Nat.strong_induction_on generalizing p with
  | _ n ih =>
    cases hstage : p.writer with
    | failed => exact absurd hstage hwriter
    | done => exact ⟨[], p, .start, hstage, by simp⟩
    | working =>
      obtain ⟨m, u, -, hu, hwriters, hfail⟩ := exists_writerMove hclosed hstage
      have hmoves := moves_of_move? hu
      have hless := hmoves.work_le hclosed
      rw [hwriters, if_pos rfl] at hless
      have hu' : u.writer ≠ .failed := by
        cases hmoves with
        | failWrite => exact absurd rfl hfail
        | closeInput => simp
        | _ => exact hwriter
      obtain ⟨later, q, hlater, hdone, hall⟩ := ih u.work (by omega) (hmoves.closed hclosed) hu' rfl
      refine ⟨(p, m) :: later, q, (History.single hu).append hlater, hdone, fun x hx => ?_⟩
      rcases List.mem_cons.1 hx with rfl | hx
      · exact ⟨hwriters, hfail⟩
      · exact hall x hx

/-! ## What a pipe carries -/

/-- What a pipe carries in a run, in either direction. -/
structure Carries (past : List (Pipe × Move)) (p : Pipe) : Prop where
  /-- What is sent is accepted as a whole, or it is refused and changes nothing. -/
  send : ∀ data, (p.send data).2 = none ∧ p.move? (.send data) = some (p.send data).1 ∨
    (p.send data).2 ≠ none ∧ (p.send data).1 = p
  /-- An open pipe whose writer works accepts all that is sent. -/
  accepts : p.connected = true → p.writer = .working → ∀ data, (p.send data).2 = none
  /-- What comes of receiving. -/
  receive : p.Gives p.receive
  /-- The chunks that the program was given are what was received. -/
  given : (given past).flatten = received past
  front : written past <+: accepted past
  /-- As long as no write fails the writer still has the rest. -/
  whole : (∀ x ∈ past, x.2 ≠ .failWrite) →
    accepted past = written past ++ p.holding ++ p.outgoing.flatten
  /-- The child's input is closed only once all that was accepted is written. -/
  done : p.writer = .done → p.connected = false ∧ written past = accepted past
  /-- Once the pipe is closed it takes and gives nothing any more. -/
  closed : p.connected = false →
    ∀ {later : List (Pipe × Move)} {q : Pipe}, History move? p later q →
    (∀ data, q.send data = (q, some .disconnected)) ∧ q.receive = (q, .failed .disconnected)
  /-- Its writer goes on, whatever else happens, and can make so many moves at most. -/
  goes : p.connected = false → p.writer = .working → ∃ m q, p.writerMove? true = some m ∧
    p.move? m = some q
  bound : p.connected = false → ∀ {later : List (Pipe × Move)} {q : Pipe}, History move? p later q →
    (later.countP fun x => x.2.isWriters) ≤ p.work
  /-- So it comes to the end, when its writes succeed. -/
  flushed : p.connected = false → (∀ x ∈ past, x.2 ≠ .failWrite) →
    ∃ later q, History move? p later q ∧
    q.inputOpen = false ∧ written (past ++ later) = accepted past
  unaltered : received past <+: produced past
  /-- A program that receives from an open pipe to the end has all that the child put out. -/
  complete : p.connected = true → (∃ e, p.receive.2 = .failed e) → (∀ x ∈ past, x.2 ≠ .failRead) →
    received past = produced past ∧ p.outputOpen = false

lemma send_cases (p : Pipe) (data : Bytes) :
    (p.send data).2 = none ∧ p.move? (.send data) = some (p.send data).1 ∨
      (p.send data).2 ≠ none ∧ (p.send data).1 = p := by
  simp only [send, move?]
  split_ifs <;> simp_all

lemma send_working (hopen : p.connected = true) (hworks : p.writer = .working) (data : Bytes) :
    (p.send data).2 = none := by
  simp [send, move?, hopen, hworks]

lemma receive_chunk {rest : List Bytes} (hopen : p.connected = true)
    (hincoming : p.incoming = data :: rest) :
    p.receive = ({ p with incoming := rest }, .chunk data) := by
  simp [receive, move, move?, hopen, hincoming]

/-- **What comes of receiving** is settled by the pipe. -/
lemma gives_receive (p : Pipe) : p.Gives p.receive := by
  cases hopen : p.connected with
  | false =>
    have hreceive : p.receive = (p, .failed .disconnected) := by simp [receive, hopen]
    rw [hreceive]
    exact .failed fun h => absurd (hopen.symm.trans h) (by simp)
  | true =>
    cases hincoming : p.incoming with
    | cons data rest =>
      rw [receive_chunk hopen hincoming]
      exact .chunk hopen hincoming (by simp [move?, hopen, hincoming])
    | nil =>
      by_cases hreads : p.reader = .working
      · have hreceive : p.receive = (p, .waiting) := by simp [receive, hopen, hincoming, hreads]
        rw [hreceive]
        exact .waiting hopen hincoming hreads
      · have hreceive : p.receive = (p, .failed .disconnected) := by
          simp [receive, hopen, hincoming, hreads]
        rw [hreceive]
        exact .failed fun _ => ⟨hincoming, hreads⟩

/-- The chunk that is given in a move is what is received in it. -/
lemma Moves.given (h : Moves p m q) : (p.gives m).toList.flatten = p.receives m := by
  cases h with
  | receive hopen hincoming =>
    rw [gives, receive_chunk hopen hincoming, receives, hincoming]
    simp [Receipt.chunk?]
  | _ => rfl

lemma given_of_history {first : Pipe} (run : History move? first past p) :
    (given past).flatten = received past := by
  induction run with
  | start => rfl
  | @step past p q m _ next ih =>
    rw [received, List.flatMap_append, ← received, List.flatMap_singleton, ← ih,
      ← (moves_of_move? next).given, Pipe.given, List.filterMap_append, List.flatten_append]
    cases hgives : p.gives m <;> simp [hgives, Pipe.given]

/-- Receiving from an open pipe fails once the reader is done and all that was read is received. -/
lemma drained_of_failed {e : PipeError} (hopen : p.connected = true)
    (hfailed : p.receive.2 = .failed e) :
    p.incoming = [] ∧ p.reader ≠ .working := by
  have hgives := p.gives_receive
  generalize p.receive = receipt at hgives hfailed
  cases hgives with
  | chunk | waiting => cases hfailed
  | failed hnone => exact hnone hopen

/-- The reader of an open pipe that fails a receive is done, unless a read failed. -/
lemma done_of_failed {e : PipeError} (run : History move? .start past p)
    (hopen : p.connected = true) (hfailed : p.receive.2 = .failed e)
    (hnone : ∀ x ∈ past, x.2 ≠ .failRead) : p.reader = .done := by
  have hreads := (drained_of_failed hopen hfailed).2
  cases hreader : p.reader with
  | working => exact absurd hreader hreads
  | done => rfl
  | failed =>
    obtain ⟨x, hx, hst⟩ := stumbled_of_history run hopen hreader
    exact absurd hst (hnone x hx)

/-- A pipe is closed with two messages on their way, one of them taken up. -/
def closing : List Move :=
  [.send [0x61, 0x62], .send [0x63], .put [0x7A], .takeUp, .write 1, .read 1, .receive, .close,
    .write 1, .takeUp, .write 1, .closeInput]

end ServerLink.Process.Pipe
