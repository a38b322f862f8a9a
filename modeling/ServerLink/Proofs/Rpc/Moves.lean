import Mathlib
import ServerLink.Rpc.Session

/-!
# The moves of a session, one by one

`Session.Moves s m t` says what each move needs and what comes of it, and **`moves_of_move?`** that
nothing else can happen.  Every invariant of a session is proved from it by cases.
-/

namespace ServerLink.Rpc

namespace Session

/-- The message that the loop has in its hand, if it can be read. -/
def inHand? (s : Session) : Option Inbound :=
  match s.phase with
  | .handing text => (Inbound.read text).toOption
  | _ => none

/-- The message in hand answers the registered call with this id. -/
def Answers (s : Session) (id : Nat) (r : Response) : Prop :=
  s.inHand? = some (.response r) ∧ r.id.nat64? = some id ∧ id ∈ s.pending

/-- The move `m` leads from `s` to `t`. -/
inductive Moves (s : Session) : Move → Session → Prop where
  | allot : Moves s .allot { s with nextId := (s.nextId + 1) % Decimal.limit64 }
  | register (id : Nat) : Moves s (.register id) { s with pending := s.pending ++ [id] }
  | post (text : String) (hopen : s.isOpen = true) :
      Moves s (.post text) { s with outbox := s.outbox ++ [.message text] }
  | mark (hopen : s.isOpen = true) :
      Moves s .mark
        { s with outbox := s.outbox ++ [.mark s.nextTicket], nextTicket := s.nextTicket + 1 }
  | withdraw (id : Nat) :
      Moves s (.withdraw id) { s with pending := s.pending.filter (· != id) }
  | cancelAll : Moves s .cancelAll s.cancelWaiting
  | stop : Moves s .stop { s with stopping := true }
  | install (h : Handlers) : Moves s (.install h) { s with handlers := h }
  | observeStop (hphase : s.phase = .running) (hstop : s.stopping = true) :
      Moves s .observeStop { s with phase := .waking }
  | write {text : String} {rest : List Outbound} (hphase : s.phase = .running)
      (hstop : s.stopping = false) (hfront : s.outbox = .message text :: rest) :
      Moves s (.write none) { s with outbox := rest, written := s.written ++ [text] }
  | refused (why : String) {text : String} {rest : List Outbound} {shown : List Log.Shown}
      (hphase : s.phase = .running) (hstop : s.stopping = false)
      (hfront : s.outbox = .message text :: rest) :
      Moves s (.write (some why)) { s with outbox := rest, phase := .waking, shown := shown }
  | acknowledge {ticket : Nat} {rest : List Outbound} (hphase : s.phase = .running)
      (hstop : s.stopping = false) (hfront : s.outbox = .mark ticket :: rest) :
      Moves s .acknowledge
        { s with outbox := rest, acknowledged := s.acknowledged ++ [ticket] }
  | fault (chunk : Bytes) {shown : List Log.Shown} (hphase : s.phase = .running)
      (hstop : s.stopping = false) (hempty : s.outbox = []) (hqueue : s.decoder.queue = [])
      (hfault : (s.decoder.absorb chunk).fault ≠ none) :
      Moves s (.absorb chunk)
        { s with decoder := (s.decoder.absorb chunk).decoder, phase := .waking, shown := shown }
  | absorb (chunk : Bytes) {shown : List Log.Shown} (hphase : s.phase = .running)
      (hstop : s.stopping = false) (hempty : s.outbox = []) (hqueue : s.decoder.queue = [])
      (hfault : (s.decoder.absorb chunk).fault = none)
      (hnext : (s.decoder.absorb chunk).decoder.queue = []) :
      Moves s (.absorb chunk)
        { s with decoder := (s.decoder.absorb chunk).decoder, shown := shown }
  | arrive (chunk : Bytes) {text : String} {queue : List String} {shown : List Log.Shown}
      (hphase : s.phase = .running) (hstop : s.stopping = false) (hempty : s.outbox = [])
      (hqueue : s.decoder.queue = []) (hfault : (s.decoder.absorb chunk).fault = none)
      (hnext : (s.decoder.absorb chunk).decoder.queue = text :: queue) :
      Moves s (.absorb chunk)
        { s with
          decoder := ⟨(s.decoder.absorb chunk).decoder.buffer, queue⟩
          phase := .handing text, shown := shown }
  | deliver {text : String} {queue : List String} (hphase : s.phase = .running)
      (hstop : s.stopping = false) (hempty : s.outbox = [])
      (hqueue : s.decoder.queue = text :: queue) :
      Moves s .deliver { s with decoder := ⟨s.decoder.buffer, queue⟩, phase := .handing text }
  | answer {r : Response} {id : Nat} (hanswer : s.Answers id r) :
      Moves s .dispatch
        { s with
          phase := .running, pending := s.pending.filter (· != id)
          woken := s.woken ++ [(id, .answered r)] }
  | reply {r : Request} {shown : List Log.Shown} (hhand : s.inHand? = some (.request r)) :
      Moves s .dispatch
        { s with
          phase := .running, outbox := s.outbox ++ [.message (s.replyTo r).1.text]
          shown := shown }
  | ignore {text : String} {shown : List Log.Shown} (hphase : s.phase = .handing text)
      (hanswer : ∀ id r, ¬ s.Answers id r) (hrequest : ∀ r, s.inHand? ≠ some (.request r)) :
      Moves s .dispatch { s with phase := .running, shown := shown }
  | loseStream (hphase : s.phase = .running) (hstop : s.stopping = false) (hempty : s.outbox = [])
      (hqueue : s.decoder.queue = []) : Moves s .loseStream { s with phase := .waking }
  | wake (hphase : s.phase = .waking) :
      Moves s .wake { s.cancelWaiting with phase := .closing }
  | close (hphase : s.phase = .closing) : Moves s .close { s with phase := .dropping }
  | drop (hphase : s.phase = .dropping) :
      Moves s .drop { s with phase := .ended, outbox := [] }

variable {s t : Session}

lemma turnsToQueue_iff : s.turnsToQueue = true ↔ s.phase = .running ∧ s.stopping = false := by
  simp [turnsToQueue]

lemma turnsToStream_iff : s.turnsToStream = true ↔
    s.phase = .running ∧ s.stopping = false ∧ s.outbox = [] := by
  simp [turnsToStream, turnsToQueue_iff, and_assoc]

lemma takeUp?_cases (s : Session) :
    (s.decoder.queue = [] ∧ s.takeUp? = none)
    ∨ ∃ text queue, s.decoder.queue = text :: queue ∧ s.takeUp? =
      some { s with decoder := ⟨s.decoder.buffer, queue⟩, phase := .handing text } := by
  obtain ⟨⟨buffer, _ | ⟨text, queue⟩⟩, _⟩ := s
  · exact .inl ⟨rfl, rfl⟩
  · exact .inr ⟨text, queue, rfl, rfl⟩

lemma dispatch_moves {text : String} (hphase : s.phase = .handing text) :
    Moves s .dispatch ({ s with phase := .running }.dispatch text) := by
  have hhand : s.inHand? = (Inbound.read text).toOption := by rw [inHand?, hphase]
  rw [dispatch]
  split
  · rename_i r hread
    rw [hread] at hhand
    have hother : ∀ r, s.inHand? ≠ some (.request r) := by simp [hhand, Except.toOption]
    rw [takeResponse]
    split
    · rename_i hid
      refine .ignore hphase ?_ hother
      rintro id r' ⟨hr, hid', -⟩
      rw [hhand] at hr
      cases hr
      exact absurd (hid.symm.trans hid') (by simp)
    · rename_i id hid
      split
      · rename_i hin
        exact .answer ⟨hhand, hid, by simpa using hin⟩
      · rename_i hout
        refine .ignore hphase ?_ hother
        rintro id' r' ⟨hr, hid', hin⟩
        rw [hhand] at hr
        cases hr
        cases hid.symm.trans hid'
        exact hout (by simpa using hin)
  · rename_i r hread
    rw [hread] at hhand
    exact .reply hhand
  · rename_i n hread
    rw [hread] at hhand
    have hanswer : ∀ id r, ¬ s.Answers id r := by simp [Answers, hhand, Except.toOption]
    have hother : ∀ r, s.inHand? ≠ some (.request r) := by simp [hhand, Except.toOption]
    rw [takeNotification]
    split
    · exact .ignore hphase hanswer hother
    · exact .ignore hphase hanswer hother
  · rename_i e hread
    rw [hread] at hhand
    refine .ignore hphase ?_ ?_
    · simp [Answers, hhand, Except.toOption]
    · simp [hhand, Except.toOption]

/-- **What a move needs and what comes of it.** -/
theorem moves_of_move? {m : Move} (h : s.move? m = some t) : Moves s m t := by
  cases m with
  | allot => cases h; exact .allot
  | register id => cases h; exact .register id
  | withdraw id => cases h; exact .withdraw id
  | cancelAll => cases h; exact .cancelAll
  | stop => cases h; exact .stop
  | install handlers => cases h; exact .install handlers
  | post text =>
    simp only [move?, Option.ite_none_right_eq_some, Option.some.injEq] at h
    obtain ⟨hopen, rfl⟩ := h
    exact .post text hopen
  | mark =>
    simp only [move?, Option.ite_none_right_eq_some, Option.some.injEq] at h
    obtain ⟨hopen, rfl⟩ := h
    exact .mark hopen
  | observeStop =>
    simp only [move?, Option.ite_none_right_eq_some, Option.some.injEq, Bool.and_eq_true,
      decide_eq_true_eq] at h
    obtain ⟨⟨hphase, hstop⟩, rfl⟩ := h
    exact .observeStop hphase hstop
  | write refusal =>
    rw [move?] at h
    split at h
    · rename_i text rest hturn hfront
      obtain ⟨hphase, hstop⟩ := turnsToQueue_iff.1 hturn
      cases refusal with
      | none => cases h; exact .write hphase hstop hfront
      | some why => cases h; exact .refused why hphase hstop hfront
    · exact absurd h (by simp)
  | acknowledge =>
    rw [move?] at h
    split at h
    · rename_i ticket rest hturn hfront
      obtain ⟨hphase, hstop⟩ := turnsToQueue_iff.1 hturn
      cases h
      exact .acknowledge hphase hstop hfront
    · exact absurd h (by simp)
  | absorb chunk =>
    simp only [move?, Option.ite_none_right_eq_some, Bool.and_eq_true, List.isEmpty_iff] at h
    obtain ⟨⟨hturn, hqueue⟩, h⟩ := h
    obtain ⟨hphase, hstop, hempty⟩ := turnsToStream_iff.1 hturn
    rw [Option.some.injEq] at h
    subst h
    -- the chunk is no frame, completes none, or completes one that is taken up at once
    cases hfault : (s.decoder.absorb chunk).fault with
    | some e => exact .fault chunk hphase hstop hempty hqueue (by simp [hfault])
    | none =>
      rcases takeUp?_cases { s with
          decoder := (s.decoder.absorb chunk).decoder
          shown := s.shown ++ (s.decoder.absorb chunk).log.map (.line Log.frameTarget) }
        with ⟨hnext, hnone⟩ | ⟨text, queue, hnext, hsome⟩
      · simp only [showAll, Option.isSome_none, Bool.false_eq_true, if_false, hnone]
        exact .absorb chunk hphase hstop hempty hqueue hfault hnext
      · simp only [showAll, Option.isSome_none, Bool.false_eq_true, if_false, hsome]
        exact .arrive chunk hphase hstop hempty hqueue hfault hnext
  | deliver =>
    simp only [move?, Option.ite_none_right_eq_some] at h
    obtain ⟨hturn, h⟩ := h
    obtain ⟨hphase, hstop, hempty⟩ := turnsToStream_iff.1 hturn
    rcases takeUp?_cases s with ⟨-, hnone⟩ | ⟨text, queue, hqueue, hsome⟩
    · rw [hnone] at h
      exact absurd h (by simp)
    · rw [hsome] at h
      cases h
      exact .deliver hphase hstop hempty hqueue
  | dispatch =>
    rw [move?] at h
    split at h
    · cases h
      exact dispatch_moves ‹_›
    · exact absurd h (by simp)
  | loseStream =>
    simp only [move?, Option.ite_none_right_eq_some, Option.some.injEq, Bool.and_eq_true,
      List.isEmpty_iff] at h
    obtain ⟨⟨hturn, hqueue⟩, rfl⟩ := h
    obtain ⟨hphase, hstop, hempty⟩ := turnsToStream_iff.1 hturn
    exact .loseStream hphase hstop hempty hqueue
  | wake =>
    simp only [move?, Option.ite_none_right_eq_some, Option.some.injEq] at h
    obtain ⟨hphase, rfl⟩ := h
    exact .wake hphase
  | close =>
    simp only [move?, Option.ite_none_right_eq_some, Option.some.injEq] at h
    obtain ⟨hphase, rfl⟩ := h
    exact .close hphase
  | drop =>
    simp only [move?, Option.ite_none_right_eq_some, Option.some.injEq] at h
    obtain ⟨hphase, rfl⟩ := h
    exact .drop hphase

end Session

end ServerLink.Rpc
