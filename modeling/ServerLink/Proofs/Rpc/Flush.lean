import Mathlib
import ServerLink.Proofs.Rpc.History

/-!
# What is handed to the stream

**Chunks.**  The loop hands each message to the stream as one chunk, its frame (`Session.chunk?`).
`handed past` are the chunks of a run, and `sent past` those that the stream took.

**Closing.**  A client closes a session by a mark at the end of the queue, and the loop acknowledges
the mark once it has come to the front.  **`Runs.flushed`**: chunks leave in the order in which
their messages were queued, none leaves once the stream is closed, and what was queued when a mark
was set has been taken by the stream when the mark is acknowledged.
-/

namespace ServerLink.Rpc

/-- The chunk of a message. -/
def Outgoing.frame (o : Outgoing) : Bytes := Frame.ofMessage o.text

namespace Exchange

/-- The chunk that a step hands to the stream. -/
def chunk? (e : Exchange) : Step → Option Bytes
  | .session m => e.session.chunk? m
  | _ => none

/-- The chunk that the stream takes in a step. -/
def takenChunk? (e : Exchange) : Step → Option Bytes
  | .session (.write none) => e.chunk? (.session (.write none))
  | _ => none

/-- The chunks that were handed to the stream, in order. -/
def handed (past : List (Exchange × Step)) : List Bytes := past.filterMap fun x => x.1.chunk? x.2

/-- The chunks that the stream took, in order. -/
def sent (past : List (Exchange × Step)) : List Bytes := past.filterMap fun x => x.1.takenChunk? x.2

/-- How a run hands messages to the stream. -/
structure Flushed (past : List (Exchange × Step)) (e : Exchange) : Prop where
  /-- The chunks are the frames of the first messages that were queued. -/
  ordered : handed past <+: (queued past).map Outgoing.frame
  /-- Once the stream is closed it is handed nothing. -/
  silent : ∀ early x late, past = early ++ x :: late → x.2 = .session .close → handed late = []
  /-- A mark that is acknowledged was acknowledged after it was set.  Between the two the stream
  took what was in the queue, and so all that was queued before the mark; it was not closed
  before. -/
  drained : ∀ early x late, past = early ++ x :: late → x.2 = .session .mark →
    x.1.session.nextTicket ∈ e.session.acknowledged →
    ∃ between y later, late = between ++ y :: later ∧ y.2 = .session .acknowledge
      ∧ sent between = x.1.session.textsQueued.map Frame.ofMessage
      ∧ sent (early ++ x :: between) = (queued early).map Outgoing.frame
      ∧ ∀ z ∈ early ++ x :: between, z.2 ≠ .session .close

variable {e f : Exchange} {st : Step} {x : Exchange × Step}
  {past early late : List (Exchange × Step)}

/-! ## Chunks -/

lemma sent_append (past later : List (Exchange × Step)) :
    sent (past ++ later) = sent past ++ sent later := List.filterMap_append

/-- What is handed to the stream are the frames of the messages that leave the queue. -/
lemma Steps.chunk? (h : Steps e st f) :
    (e.chunk? st).toList = ((e.leaves st).filterMap Outbound.text?).map Frame.ofMessage := by
  cases h with
  | begin | turn | notify | unheard => rfl
  | @session m s hcallers h =>
    cases Session.moves_of_move? h with
    | write hphase hstop hfront | refused why hphase hstop hfront
    | acknowledge hphase hstop hfront =>
      simp only [Exchange.chunk?, Session.chunk?, leaves, Session.takes, hfront]
      rfl
    | _ => rfl

/-- The stream takes a chunk exactly where a message is written. -/
lemma Steps.takenChunk? (h : Steps e st f) : f.session.written.map Frame.ofMessage
    = e.session.written.map Frame.ofMessage ++ (e.takenChunk? st).toList := by
  have quiet : e.session.written.map Frame.ofMessage
      = e.session.written.map Frame.ofMessage ++ [] := (List.append_nil _).symm
  cases h with
  | begin | notify | unheard => exact quiet
  | turn _ h =>
    cases h <;> exact quiet
  | @session m s hcallers h =>
    cases Session.moves_of_move? h with
    | write hphase hstop hfront =>
      simp only [Exchange.takenChunk?, Exchange.chunk?, Session.chunk?, hfront, List.map_append]
      rfl
    | _ => exact quiet

lemma Runs.handed_eq (h : Runs past e) :
    handed past = ((left past).filterMap Outbound.text?).map Frame.ofMessage := by
  induction h with
  | start => rfl
  | @step past e f st _ next ih =>
    rw [handed, List.filterMap_append, ← handed, ih, left_append,
      left_singleton, List.filterMap_append, List.map_append, ← (steps_of_step? next).chunk?]
    cases h : e.chunk? st <;> simp [h]

lemma Runs.sent_eq (h : Runs past e) : sent past = e.session.written.map Frame.ofMessage := by
  induction h with
  | start => rfl
  | @step past e f st _ next ih =>
    rw [sent_append, ih, (steps_of_step? next).takenChunk?]
    cases h : e.takenChunk? st <;> simp [sent, h]

/-- A loop that has ended hands nothing to the stream. -/
lemma Steps.chunk?_of_ended (h : Steps e st f) (hended : e.session.works = false) :
    e.chunk? st = none := by
  cases h with
  | begin | turn | notify | unheard => rfl
  | session _ h =>
    cases Session.moves_of_move? h with
    | write hphase | refused _ hphase =>
      exact absurd (Session.works_of_running hphase) (by simp [hended])
    | _ => rfl

/-- Only a loop that has ended closes the stream. -/
lemma Steps.ended_of_close (h : Steps e (.session .close) f) : e.session.works = false := by
  cases h with
  | session _ h =>
    cases Session.moves_of_move? h with
    | close hphase => rw [Session.works, hphase]

/-! ## Marks -/

/-- A mark that is acknowledged in a step was at the front of the queue. -/
lemma Steps.acknowledged (h : Steps e st f) {ticket : Nat} (hin : ticket ∈ f.session.acknowledged)
    (hout : ticket ∉ e.session.acknowledged) : st = .session .acknowledge
      ∧ e.session.works = true ∧ ∃ rest, e.session.outbox = .mark ticket :: rest := by
  cases h with
  | begin | notify | unheard => exact absurd hin hout
  | turn _ h =>
    cases h <;> exact absurd hin hout
  | session _ h =>
    cases Session.moves_of_move? h with
    | @acknowledge ticket' rest hphase hstop hfront =>
      rcases List.mem_append.1 hin with hin | hin
      · exact absurd hin hout
      · rw [List.mem_singleton.1 hin]
        exact ⟨rfl, Session.works_of_running hphase, rest, hfront⟩
    | _ => exact absurd hin hout

/-- The step of a run that acknowledged a mark. -/
lemma Runs.acknowledged (h : Runs past e) {ticket : Nat}
    (hin : ticket ∈ e.session.acknowledged) :
    ∃ early y late rest, past = early ++ y :: late ∧ y.2 = .session .acknowledge
      ∧ y.1.session.works = true ∧ y.1.session.outbox = .mark ticket :: rest := by
  induction h with
  | start => exact absurd hin List.not_mem_nil
  | @step past e f st _ next ih =>
    by_cases hin' : ticket ∈ e.session.acknowledged
    · obtain ⟨early, y, late, rest, rfl, hy⟩ := ih hin'
      exact ⟨early, y, late ++ [(e, st)], rest, by simp, hy⟩
    · obtain ⟨hst, hworks, rest, hfront⟩ := (steps_of_step? next).acknowledged hin hin'
      exact ⟨past, (e, st), [], rest, rfl, hst, hworks, hfront⟩

/-- A ticket is older than the tickets that are still to come exactly if its mark entered the
queue. -/
lemma Runs.mark_entered_iff (h : Runs past e) {ticket : Nat} :
    .mark ticket ∈ entered past ↔ ticket < e.session.nextTicket := by
  rw [← List.mem_range, ← h.tickets, List.mem_filterMap]
  constructor
  · exact fun hin => ⟨_, hin, rfl⟩
  · rintro ⟨o, hin, hticket⟩
    cases o with
    | message => exact absurd hticket (by simp [Outbound.ticket?])
    | mark other =>
      cases hticket
      exact hin

/-- No mark enters the queue twice. -/
lemma Runs.mark_once (h : Runs past e) {ticket : Nat} {before after : List Outbound}
    (hentered : entered past = before ++ .mark ticket :: after) :
    .mark ticket ∉ before ∧ .mark ticket ∉ after := by
  have hticket : Outbound.ticket? (.mark ticket) = some ticket := rfl
  have hnodup := h.tickets ▸ List.nodup_range (n := e.session.nextTicket)
  rw [hentered, List.filterMap_append, List.filterMap_cons_some hticket, List.nodup_append_comm,
    List.cons_append, List.nodup_cons, List.mem_append, not_or] at hnodup
  obtain ⟨⟨hafter, hbefore⟩, -⟩ := hnodup
  exact ⟨fun hin => hbefore (List.mem_filterMap.2 ⟨_, hin, rfl⟩),
    fun hin => hafter (List.mem_filterMap.2 ⟨_, hin, rfl⟩)⟩

/-- The step that acknowledges a mark comes after the one that set it. -/
lemma Runs.acknowledged_after {y : Exchange × Step} {late' early' : List (Exchange × Step)}
    {rest : List Outbound} (h : Runs (early ++ x :: late) e) (hx : x.2 = .session .mark)
    (hsame : early ++ x :: late = early' ++ y :: late') (hy : y.2 = .session .acknowledge)
    (hworks : y.1.session.works = true)
    (hfront : y.1.session.outbox = .mark x.1.session.nextTicket :: rest) :
    ∃ between, late = between ++ y :: late' ∧ early' = early ++ x :: between := by
  have hxy : x ≠ y := by
    rintro rfl
    rw [hx] at hy
    exact absurd hy (by simp)
  rcases List.append_eq_append_iff.1 hsame with ⟨between, rfl, hlate⟩ | ⟨between, rfl, hlate⟩
  · cases between with
    | nil =>
      exact absurd (List.head_eq_of_cons_eq hlate) hxy
    | cons z between =>
      rw [List.cons_append, List.cons.injEq] at hlate
      obtain ⟨rfl, rfl⟩ := hlate
      exact ⟨between, rfl, rfl⟩
  · -- the mark was in the queue before it was set
    cases between with
    | nil => exact absurd (List.head_eq_of_cons_eq hlate).symm hxy
    | cons z between =>
      rw [List.cons_append, List.cons.injEq] at hlate
      obtain ⟨rfl, rfl⟩ := hlate
      have hrun := h.before.1
      have hin : .mark x.1.session.nextTicket ∈ entered early' := by
        rw [hrun.before.1.drains.rest hworks, hfront]
        simp
      have hlt := hrun.before.1.mark_entered_iff.1 hin
      have hle := (hrun.stays (P := fun e => y.1.session.nextTicket ≤ e.session.nextTicket)
        (fun hstep hle => hle.trans hstep.nextTicket_le) le_rfl).2
      exact absurd hlt (by omega)

/-- When a mark is at the front of the queue, what left the queue is what entered it before the
mark. -/
lemma Runs.left_eq_entered {rest : List Outbound} (h : Runs (early ++ x :: late) e)
    (hx : x.2 = .session .mark) (hworks : e.session.works = true)
    (hfront : e.session.outbox = .mark x.1.session.nextTicket :: rest) :
    left (early ++ x :: late) = entered early := by
  have hset : entered (early ++ x :: late)
      = entered early ++ .mark x.1.session.nextTicket :: entered late := by
    rw [← List.singleton_append, entered_append, entered_append, entered_singleton, hx]
    rfl
  have hrest := h.drains.rest hworks
  rw [hfront] at hrest
  obtain ⟨hearly, hlate⟩ := h.mark_once hset
  exact ((List.append_cons_inj_of_notMem hearly hlate).1 (hset.symm.trans hrest)).1.symm

/-- **Messages leave in order, and an acknowledged mark has all before it sent.** -/
theorem Runs.flushed (h : Runs past e) : Flushed past e := by
  constructor
  case ordered =>
    rw [h.handed_eq]
    have hfirst := (h.drains.first.filterMap Outbound.text?).map Frame.ofMessage
    rw [texts_entered, List.map_map] at hfirst
    exact hfirst
  case silent =>
    rintro early x late rfl hx
    obtain ⟨-, f, hclose⟩ := h.before
    rw [hx] at hclose
    rw [handed, List.filterMap_eq_nil_iff]
    intro y hy
    have hended := (h.stays_ended hclose.ended_of_close).1 y hy
    obtain ⟨before, after, rfl⟩ := List.append_of_mem hy
    rw [← List.cons_append, ← List.append_assoc] at h
    obtain ⟨-, g, hstep⟩ := h.before
    exact hstep.chunk?_of_ended hended
  case drained =>
    rintro early x late rfl hx hticket
    obtain ⟨early', y, late', rest, hsame, hy, hworks, hfront⟩ := h.acknowledged hticket
    obtain ⟨between, rfl, rfl⟩ := h.acknowledged_after hx hsame hy hworks hfront
    rw [← List.cons_append, ← List.append_assoc] at h
    have hrun := h.before.1
    have hsent : sent (early ++ x :: between) = (queued early).map Outgoing.frame := by
      rw [hrun.sent_eq, hrun.drains.all hworks, hrun.left_eq_entered hx hworks hfront,
        texts_entered, List.map_map]
      rfl
    refine ⟨between, y, late', rfl, hy, ?_, hsent, ?_⟩
    · -- what was queued when the mark was set is what was sent then and what is sent between
      have hset := hrun.before.1
      have htexts := hset.writes.rest (hrun.worked hworks x (by simp))
      have hnone : sent [x] = [] := by simp [sent, hx, Exchange.takenChunk?]
      have hframes : (queued early).map Outgoing.frame
          = ((queued early).map Outgoing.text).map Frame.ofMessage := (List.map_map ..).symm
      rw [← List.singleton_append, sent_append, sent_append, hnone, List.nil_append, hset.sent_eq,
        hframes, htexts, List.map_append] at hsent
      exact List.append_cancel_left hsent
    · intro z hz hclose
      have hended := hrun.worked hworks z hz
      obtain ⟨before, after, hplace⟩ := List.append_of_mem hz
      rw [hplace] at hrun
      obtain ⟨-, f, hstep⟩ := hrun.before
      rw [hclose] at hstep
      exact absurd hstep.ended_of_close (by simp [hended])

/-! ## A notification in front of a mark -/

/-- The session ends with one message, which was queued before the mark. -/
def farewell : Exchange :=
  ⟨{ Session.start with
      nextTicket := 1, acknowledged := [0], stopping := true, phase := .dropping
      written := [Notification.text ⟨version, "exit", none⟩] }, []⟩

theorem flushed_farewell : ∃ past, Runs past farewell
    ∧ sent past = [Frame.ofMessage (Notification.text ⟨version, "exit", none⟩)]
    ∧ Flushed past farewell := by
  have h1 := Runs.step .start (rfl : start.step? (.notify "exit" none) = some _)
  have h2 := Runs.step h1 (rfl : Exchange.step? _ (.session .mark) = some _)
  have h3 := Runs.step h2 (rfl : Exchange.step? _ (.session (.write none)) = some _)
  have h4 := Runs.step h3 (rfl : Exchange.step? _ (.session .acknowledge) = some _)
  have h5 := Runs.step h4 (rfl : Exchange.step? _ (.session .stop) = some _)
  have h6 := Runs.step h5 (rfl : Exchange.step? _ (.session .observeStop) = some _)
  have h7 := Runs.step h6 (rfl : Exchange.step? _ (.session .wake) = some _)
  have h8 := Runs.step h7 (rfl : Exchange.step? _ (.session .close) = some farewell)
  exact ⟨_, h8, h8.sent_eq, h8.flushed⟩

end Exchange

end ServerLink.Rpc
