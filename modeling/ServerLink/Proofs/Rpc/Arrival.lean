import Mathlib
import ServerLink.Proofs.Frame.Prefix
import ServerLink.Proofs.Rpc.History
import ServerLink.Proofs.Transport.Reception
import ServerLink.Rpc.World

/-!
# What arrives and what is handed out

The loop turns to the stream only while the queue is empty, and whatever joins the queue in between
takes the stream's turn away.

**The invariant.**  `absorbed past` are the bytes that the loop took in a run, and `dispatched past`
the messages it handed out.  `Runs.follows`: these, the message in hand and those that wait are the
messages of the bytes, in order, whatever came in between.

**The end.**  On a stream of whole frames the loop ends only where it was asked to stop or the
stream fails (`Runs.alive`).  Otherwise it comes to hand out every message: `weight` counts what it
has still to do besides, and each of its moves makes the whole smaller
(**`World.settleFor_dispatches`**).
-/

namespace ServerLink.Rpc

open ServerLink.Frame ServerLink.Transport

/-- The chunk that a move takes from the stream. -/
def Move.chunks : Move → List Bytes
  | .absorb chunk => [chunk]
  | _ => []

/-- Whether the loop makes a move while it works, the stream taking what it is handed. -/
def Move.drives : Move → Bool
  | .write none | .acknowledge | .absorb _ | .deliver | .dispatch => true
  | _ => false

namespace Session

/-- The message in hand. -/
def held (s : Session) : List String :=
  match s.phase with
  | .handing text => [text]
  | _ => []

/-- The message that a move hands out. -/
def hands (s : Session) : Move → List String
  | .dispatch => s.held
  | _ => []

/-- What the loop has to do before it takes up another message. -/
def weight (s : Session) : Nat := s.outbox.length + 2 * s.held.length

variable {s t : Session} {m : Move}

lemma held_of_running (h : s.phase = .running) : s.held = [] := by rw [held, h]

lemma held_of_inHand {message : Inbound} (h : s.inHand? = some message) :
    ∃ text, s.phase = .handing text ∧ s.held = [text] := by
  rw [inHand?] at h
  split at h
  · rename_i text hphase
    exact ⟨text, hphase, by rw [held, hphase]⟩
  · exact absurd h (by simp)

/-- **No byte is lost and no message is skipped or repeated.** -/
theorem Moves.follows (h : Moves s m t) {taken : Bytes} {given : List String}
    (hf : s.decoder.Follows taken (given ++ s.held)) :
    t.decoder.Follows (taken ++ m.chunks.flatten) (given ++ s.hands m ++ t.held) := by
  have quiet : t.decoder = s.decoder → m.chunks = [] → s.hands m ++ t.held = s.held →
      t.decoder.Follows (taken ++ m.chunks.flatten) (given ++ s.hands m ++ t.held) := by
    intro hdecoder hchunks hheld
    rw [hchunks, List.flatten_nil, List.append_nil, List.append_assoc, hheld, hdecoder]
    exact hf
  cases h with
  | allot | register | post | mark | withdraw | cancelAll | stop | install =>
    exact quiet rfl rfl rfl
  | observeStop hphase | refused _ hphase | loseStream hphase | write hphase | acknowledge hphase
  | close hphase | drop hphase => exact quiet rfl rfl (by simp [hands, held, hphase])
  | wake hphase => exact quiet rfl rfl (by simp [hands, held, hphase])
  | fault chunk hphase | absorb chunk hphase =>
    rw [held_of_running hphase] at hf
    have habsorb := hf.absorb chunk
    simpa [Move.chunks, hands, held, hphase] using habsorb
  | arrive chunk hphase _ _ _ _ hnext =>
    rw [held_of_running hphase] at hf
    have hnew := (hf.absorb chunk).handOut hnext
    simpa [Move.chunks, hands, held] using hnew
  | deliver hphase _ _ hqueue =>
    rw [held_of_running hphase] at hf
    have hnew := hf.handOut hqueue
    simpa [Move.chunks, hands, held] using hnew
  | answer hanswer => exact quiet rfl rfl (List.append_nil _)
  | reply hhand => exact quiet rfl rfl (List.append_nil _)
  | ignore hphase => exact quiet rfl rfl (List.append_nil _)

/-- **Each move of the loop lightens its work**, a message that it takes up being worth three moves
and a chunk one. -/
lemma Moves.weight (h : Moves s m t) (hdrives : m.drives = true) :
    t.weight + 1 + 3 * s.held.length
      ≤ s.weight + m.chunks.length + 3 * (s.hands m ++ t.held).length := by
  cases h with
  | write hphase hstop hfront | acknowledge hphase hstop hfront =>
    simp only [Session.weight, hands, held, hphase, hfront, Move.chunks, List.length_cons,
      List.length_nil, List.append_nil]
    omega
  | fault chunk hphase | absorb chunk hphase =>
    simp only [Session.weight, hands, held, hphase, Move.chunks, List.length_cons,
      List.length_nil, List.append_nil]
    omega
  | arrive chunk hphase | deliver hphase =>
    simp only [Session.weight, hands, held, hphase, Move.chunks, List.length_cons,
      List.length_nil, List.nil_append]
    omega
  | answer hanswer =>
    obtain ⟨text, -, hheld⟩ := held_of_inHand hanswer.1
    rw [Session.weight, Session.weight, hands, hheld]
    simp only [held, Move.chunks, List.length_cons, List.length_nil, List.append_nil]
    omega
  | reply hhand =>
    obtain ⟨text, -, hheld⟩ := held_of_inHand hhand
    rw [Session.weight, Session.weight, hands, hheld]
    simp only [held, Move.chunks, List.length_append, List.length_cons, List.length_nil,
      List.append_nil]
    omega
  | ignore hphase =>
    simp only [Session.weight, hands, held, hphase, Move.chunks, List.length_cons,
      List.length_nil, List.append_nil]
    omega
  | _ => exact absurd hdrives (by simp [Move.drives])

end Session

/-- The chunk that a step takes from the stream. -/
def Step.chunks : Step → List Bytes
  | .session m => m.chunks
  | _ => []

/-- Whether a step ends the loop from outside: it is asked to stop, or the stream fails it. -/
def Step.breaks : Step → Bool
  | .session .stop | .session .loseStream | .session (.write (some _)) => true
  | _ => false

/-- The loop works on, unless it is asked to stop, the stream fails it or a header is rejected. -/
lemma Session.Moves.alive {s t : Session} {m : Move} (h : Moves s m t) (hworks : s.works = true)
    (hstop : s.stopping = false) (hbreaks : (Step.session m).breaks = false)
    (hfault : ∀ chunk, m = .absorb chunk → (s.decoder.absorb chunk).fault = none) :
    t.works = true ∧ t.stopping = false := by
  cases h with
  | allot | register | post | mark | withdraw | cancelAll | install | write | acknowledge
  | absorb => exact ⟨hworks, hstop⟩
  | arrive | deliver | answer | reply | ignore => exact ⟨rfl, hstop⟩
  | observeStop _ hasked => exact absurd hasked (by simp [hstop])
  | stop | refused | loseStream => exact absurd hbreaks (by simp [Step.breaks])
  | fault chunk _ _ _ _ hsome => exact absurd (hfault chunk rfl) hsome
  | wake hphase | close hphase | drop hphase =>
    exact absurd hworks (by simp [Session.works, hphase])

namespace Exchange

/-- The message that a step hands out. -/
def hands (e : Exchange) : Step → List String
  | .session m => e.session.hands m
  | _ => []

/-- The chunks that the loop took in a run. -/
def absorbed (past : List (Exchange × Step)) : List Bytes := past.flatMap fun x => x.2.chunks

/-- The messages that were handed out, each with the session that handed it out. -/
def handings (past : List (Exchange × Step)) : List (Session × String) :=
  past.flatMap fun x => (x.1.hands x.2).map (x.1.session, ·)

/-- The messages that were handed out, in order. -/
def dispatched (past : List (Exchange × Step)) : List String := (handings past).map Prod.snd

/-- A run in which nobody asked the loop to stop and the stream did not fail it. -/
def Unbroken (past : List (Exchange × Step)) : Prop := ∀ x ∈ past, x.2.breaks = false

variable {e f : Exchange} {st : Step} {past : List (Exchange × Step)}

@[simp] lemma absorbed_append (past : List (Exchange × Step)) (x : Exchange × Step) :
    absorbed (past ++ [x]) = absorbed past ++ x.2.chunks := by
  simp [absorbed]

@[simp] lemma handings_append (past : List (Exchange × Step)) (x : Exchange × Step) :
    handings (past ++ [x]) = handings past ++ (x.1.hands x.2).map (x.1.session, ·) := by
  simp [handings]

@[simp] lemma dispatched_append (past : List (Exchange × Step)) (x : Exchange × Step) :
    dispatched (past ++ [x]) = dispatched past ++ x.1.hands x.2 := by
  simp [dispatched, Function.comp_def]

lemma unbroken_append {x : Exchange × Step} :
    Unbroken (past ++ [x]) ↔ Unbroken past ∧ x.2.breaks = false := by
  simp [Unbroken, or_imp, forall_and]

/-- **What was handed out and what waits** are the messages of the bytes that were taken. -/
theorem Runs.follows (h : Runs past e) :
    e.session.decoder.Follows (absorbed past).flatten (dispatched past ++ e.session.held) := by
  induction h with
  | start => exact Decoder.follows_empty
  | @step past e f st _ next ih =>
    rw [absorbed_append, dispatched_append, List.flatten_append]
    have quiet : f.session.decoder = e.session.decoder → f.session.held = e.session.held →
        e.hands st = [] → st.chunks = [] → f.session.decoder.Follows
          ((absorbed past).flatten ++ st.chunks.flatten)
          (dispatched past ++ e.hands st ++ f.session.held) := by
      intro hdecoder hheld hhands hchunks
      rw [hdecoder, hheld, hhands, hchunks, List.flatten_nil, List.append_nil, List.append_nil]
      exact ih
    cases steps_of_step? next with
    | begin | notify | unheard => exact quiet rfl rfl rfl rfl
    | turn _ h =>
      cases h <;> exact quiet rfl rfl rfl rfl
    | session _ h => exact (Session.moves_of_move? h).follows ih

/-! ## A stream of whole frames -/

section Whole

variable {stream : Bytes} {bodies : List Bytes}

/-- The messages of a part of the stream are the first. -/
lemma follows_prefix {d : Decoder} {taken : Bytes} {given : List String}
    (hf : d.Follows taken given) (hstream : Cut stream bodies []) (htaken : taken <+: stream) :
    given ++ d.queue <+: bodies.map message := by
  have hbodies := bodies_mono htaken
  rw [cut_nil_iff.1 hstream] at hbodies
  rw [hf.queue]
  exact hbodies.map message

lemma absorbed_leads {x : Exchange × Step}
    (h : (absorbed (past ++ [x])).flatten <+: stream) : (absorbed past).flatten <+: stream := by
  rw [absorbed_append, List.flatten_append] at h
  exact (List.prefix_append _ _).trans h

/-- **The loop works on** unless it is asked to stop or the stream fails it. -/
theorem Runs.alive (h : Runs past e) (hstream : Cut stream bodies [])
    (harrived : (absorbed past).flatten <+: stream) (hunbroken : Unbroken past) :
    e.session.works = true ∧ e.session.stopping = false := by
  have hsound : (decode stream).fault = none := by rw [cut_nil_iff.1 hstream]
  induction h with
  | start => exact ⟨rfl, rfl⟩
  | @step past e f st run next ih =>
    obtain ⟨hpast, hst⟩ := unbroken_append.1 hunbroken
    obtain ⟨hworks, hstop⟩ := ih (absorbed_leads harrived) hpast
    cases steps_of_step? next with
    | begin | notify | unheard => exact ⟨hworks, hstop⟩
    | turn _ h =>
      cases h <;> exact ⟨hworks, hstop⟩
    | session _ h =>
      refine (Session.moves_of_move? h).alive hworks hstop hst ?_
      rintro chunk rfl
      rw [absorbed_append, List.flatten_append] at harrived
      rw [run.follows.fault_absorb]
      exact fault_mono (by simpa [Step.chunks, Move.chunks] using harrived) hsound

end Whole

end Exchange

/-! ## The loop on its own -/

namespace World

lemma send_carrying (waiting : List Bytes) (chunk : Bytes) :
    (Scripted.carrying waiting true).send chunk = .ok (.carrying waiting true) := by
  simp [Scripted.send, Scripted.carrying]

/-- What the loop does next on a stream that is held open and takes all it is handed: it makes a
move, or it has nothing to do. -/
lemma loopMove?_cases {s : Session} (hworks : s.works = true) (hstop : s.stopping = false)
    (waiting : List Bytes) :
    (loopMove? s (.carrying waiting true) = none ∧ s.held = [] ∧ s.decoder.queue = []
      ∧ waiting = [])
    ∨ ∃ m rest, loopMove? s (.carrying waiting true) = some (m, .carrying rest true)
      ∧ (s.move? m).isSome = true ∧ m.drives = true ∧ waiting = m.chunks ++ rest := by
  rw [Session.works] at hworks
  split at hworks
  case h_1 hphase =>
    have hturn : s.turnsToQueue = true := Session.turnsToQueue_iff.2 ⟨hphase, hstop⟩
    -- the queue comes before the stream, and messages that are decoded before new chunks
    cases houtbox : s.outbox with
    | cons o rest =>
      cases o with
      | message text =>
        refine .inr ⟨.write none, waiting, ?_, ?_, rfl, rfl⟩
        · simp [loopMove?, hphase, hstop, houtbox, Outbound.chunk?, send_carrying]
        · simp [Session.move?, hturn, houtbox]
      | mark ticket =>
        refine .inr ⟨.acknowledge, waiting, ?_, ?_, rfl, rfl⟩
        · simp [loopMove?, hphase, hstop, houtbox, Outbound.chunk?]
        · simp [Session.move?, hturn, houtbox]
    | nil =>
      have hturn : s.turnsToStream = true := Session.turnsToStream_iff.2 ⟨hphase, hstop, houtbox⟩
      cases hqueue : s.decoder.queue with
      | cons text queue =>
        refine .inr ⟨.deliver, waiting, ?_, ?_, rfl, rfl⟩
        · simp [loopMove?, hphase, hstop, houtbox, hqueue]
        · simp [Session.move?, hturn, Session.takeUp?, Decoder.next?, hqueue]
      | nil =>
        cases waiting with
        | nil =>
          refine .inl ⟨?_, Session.held_of_running hphase, rfl, rfl⟩
          simp [loopMove?, hphase, hstop, houtbox, hqueue, Scripted.receive, Scripted.carrying]
        | cons chunk rest =>
          refine .inr ⟨.absorb chunk, rest, ?_, ?_, rfl, rfl⟩
          · simp [loopMove?, hphase, hstop, houtbox, hqueue, Scripted.receive, Scripted.carrying]
          · simp [Session.move?, hturn, hqueue]
  case h_2 text hphase =>
    refine .inr ⟨.dispatch, waiting, ?_, ?_, rfl, rfl⟩
    · simp [loopMove?, hphase]
    · simp [Session.move?, hphase]
  case h_3 => exact absurd hworks (by simp)

lemma Move.drives_cases {m : Move} (h : m.drives = true) :
    m.isCallers = false ∧ (Step.session m).breaks = false := by
  cases m with
  | write refusal => cases refusal <;> simp_all [Move.drives, Move.isCallers, Step.breaks]
  | _ => simp_all [Move.drives, Move.isCallers, Step.breaks]

variable {stream : Bytes} {bodies : List Bytes}

/-- A move that the loop is ready for is a step of the world. -/
lemma act_eq {w : World} {m : Move} {t : Session} (hcallers : m.isCallers = false)
    (hmove : w.session.move? m = some t) :
    w.toExchange.step? (.session m) = some (w.act m).toExchange
      ∧ (w.act m).session = t := by
  have hstep : w.toExchange.step? (.session m) = some ⟨t, w.calls⟩ := by
    simp [Exchange.step?, hcallers, hmove]
  have hact : (w.act m).toExchange = ⟨t, w.calls⟩ := by
    show w.toExchange.step (.session m) = _
    rw [Exchange.step, hstep]
    rfl
  rw [hact]
  exact ⟨hstep, rfl⟩

/-- **The loop comes to hand out every message.** -/
theorem settleFor_dispatches (hstream : Cut stream bodies []) (fuel : Nat) {w : World}
    {past : List (Exchange × Step)} {waiting : List Bytes} (h : Exchange.Runs past w.toExchange)
    (hunbroken : Exchange.Unbroken past) (hcarries : w.stream = .carrying waiting true)
    (hbytes : (Exchange.absorbed past ++ waiting).flatten = stream)
    (hfuel : waiting.length + w.session.weight
      + 3 * (bodies.length - (Exchange.dispatched past ++ w.session.held).length) ≤ fuel) :
    ∃ more, Exchange.Runs (past ++ more) (settleFor fuel w).toExchange
      ∧ Exchange.Unbroken (past ++ more)
      ∧ Exchange.dispatched (past ++ more) = bodies.map message := by
  -- on the fuel, which covers the moves that are left: each makes the loop lighter, takes a chunk
  -- or hands out a message
  induction fuel generalizing w past waiting with
  | zero =>
    have harrived : (Exchange.absorbed past).flatten <+: stream :=
      hbytes ▸ (List.prefix_append _ _).flatten
    rw [Session.weight] at hfuel
    have hheld : w.session.held = [] := List.eq_nil_of_length_eq_zero (by omega)
    have hprefix := Exchange.follows_prefix h.follows hstream harrived
    rw [hheld, List.append_nil] at hfuel hprefix
    rw [settleFor]
    refine ⟨[], by simpa using h, by simpa using hunbroken, ?_⟩
    rw [List.append_nil]
    refine ((List.prefix_append _ _).trans hprefix).eq_of_length_le ?_
    rw [List.length_map]
    omega
  | succ fuel ih =>
    have harrived : (Exchange.absorbed past).flatten <+: stream :=
      hbytes ▸ (List.prefix_append _ _).flatten
    obtain ⟨hworks, hstop⟩ := h.alive hstream harrived hunbroken
    rcases loopMove?_cases hworks hstop waiting with
      ⟨hnone, hheld, hqueue, rfl⟩ | ⟨m, rest, hsome, hmove, hdrives, rfl⟩
    · -- the loop has nothing to do, so all the bytes have arrived
      have hall := h.follows.all_given hqueue
      rw [List.append_nil] at hbytes
      rw [hheld, List.append_nil, hbytes, cut_nil_iff.1 hstream] at hall
      rw [settleFor, hcarries, hnone]
      exact ⟨[], by simpa using h, by simpa using hunbroken, by simpa using hall⟩
    · obtain ⟨hcallers, hbreaks⟩ := Move.drives_cases hdrives
      obtain ⟨t, ht⟩ := Option.isSome_iff_exists.1 hmove
      obtain ⟨hnext, hact⟩ := act_eq hcallers ht
      have hrun := h.step hnext
      have hbytes' : (Exchange.absorbed (past ++ [(w.toExchange, .session m)]) ++ rest).flatten
          = stream := by
        rw [Exchange.absorbed_append, List.append_assoc]
        exact hbytes
      have hprefix := (Exchange.follows_prefix hrun.follows hstream
        (hbytes' ▸ (List.prefix_append _ _).flatten)).length_le
      have hlight := (Session.moves_of_move? ht).weight hdrives
      rw [Exchange.dispatched_append, hact] at hprefix
      obtain ⟨more, hmore, hunbroken', hall⟩ := ih
        (w := { w.act m with stream := .carrying rest true }) hrun
        (Exchange.unbroken_append.2 ⟨hunbroken, hbreaks⟩) rfl hbytes' (by
          rw [Exchange.dispatched_append]
          simp only [hact, Exchange.hands, List.length_append, List.length_map] at *
          omega)
      rw [settleFor, hcarries, hsome]
      rw [List.append_assoc, List.singleton_append] at hmore hunbroken' hall
      exact ⟨_, hmore, hunbroken', hall⟩

end World

end ServerLink.Rpc
