import Mathlib
import ServerLink.Proofs.Rpc.Queue
import ServerLink.Proofs.Rpc.Signal

/-!
# What a session holds of its calls

**The invariant.**  `Sound past e` says of a run how session and calls fit together.  The ids are
the numbers from one on; at each stage of a call the session holds of it what `Call.Agrees` says;
what a call was woken with is the first signal that the run had for it; and the requests queued are
those of the calls beyond that stage, each once.

**Steps.**  A turn of a caller changes what is held of its own call only (`Takes.others`); any other
move treats all calls alike (`move?_signalled`).  Hence **`Runs.sound`**, as long as fewer calls are
begun than there are ids.
-/

namespace ServerLink.Rpc

/-- Whether the message of a call at this stage was queued. -/
def Stage.isQueued : Stage → Bool
  | .waiting | .late | .done (.woken _) | .done .timedOut => true
  | _ => false

/-- What a session holds of a call.  Before it is registered there is nothing, then it is registered
as long as it was not woken, and in the end it is registered no more; only a call whose parameters
cannot be written leaves its id behind. -/
def Call.Agrees (c : Call) (s : Session) : Prop :=
  match c.stage with
  | .numbered => c.id ∉ s.pending ∧ s.wake? c.id = none
  | .done (.woken w) => c.id ∉ s.pending ∧ s.wake? c.id = some w
  | .done .timedOut | .done .unsent => c.id ∉ s.pending
  | _ => c.id ∈ s.pending ↔ s.wake? c.id = none

section Turn

variable {c d : Call} {s s' t : Session} {turn : Turn} {id : Nat}

/-! ## One call -/

lemma Call.Agrees.congr (h : c.Agrees s) (hpending : c.id ∈ t.pending ↔ c.id ∈ s.pending)
    (hwake : t.wake? c.id = s.wake? c.id) : c.Agrees t := by
  unfold Agrees at h ⊢
  rw [hpending, hwake]
  exact h

/-- A move that is no caller's keeps agreement with every call. -/
lemma Call.Agrees.signalled {signal : Nat → Option Wake} (h : c.Agrees s)
    (hs : Session.Signalled s signal t) : c.Agrees t := by
  unfold Agrees at h ⊢
  split at h
  · obtain ⟨hout, hwake⟩ := hs.untouched h.1
    exact ⟨hout, hwake.trans h.2⟩
  · obtain ⟨hout, hwake⟩ := hs.untouched h.1
    exact ⟨hout, hwake.trans h.2⟩
  · exact (hs.untouched h).1
  · exact (hs.untouched h).1
  · exact hs.balanced h

/-- A call that was woken or given up is registered no more. -/
lemma Call.Agrees.gone (h : c.Agrees s)
    (hgone : s.wake? c.id ≠ none ∨ c.stage = .done .timedOut ∨ c.stage = .done .unsent) :
    c.id ∉ s.pending := by
  unfold Agrees at h
  split at h
  · exact h.1
  · exact h.1
  · exact h
  · exact h
  · intro hin
    rcases hgone with hwake | hstage | hstage
    · exact hwake (h.1 hin)
    · exact absurd hstage ‹_›
    · exact absurd hstage ‹_›

/-- A call that was queued and not woken is registered until its time is up. -/
lemma Call.Agrees.registered (h : c.Agrees s) (hqueued : c.stage.isQueued = true)
    (hwake : s.wake? c.id = none) (htime : c.stage ≠ .done .timedOut) : c.id ∈ s.pending := by
  unfold Agrees at h
  cases hstage : c.stage with
  | waiting | late =>
    rw [hstage] at h
    exact h.2 hwake
  | done ending =>
    cases ending with
    | woken w =>
      rw [hstage] at h
      exact absurd (hwake.symm.trans h.2) (by simp)
    | timedOut => exact absurd hstage htime
    | _ => rw [hstage] at hqueued; exact absurd hqueued (by simp [Stage.isQueued])
  | _ => rw [hstage] at hqueued; exact absurd hqueued (by simp [Stage.isQueued])

lemma Call.Takes.id_eq (h : c.Takes s turn s' d) : d.id = c.id := by
  cases h <;> rfl

lemma Call.Takes.asks_eq (h : c.Takes s turn s' d) : d.method = c.method ∧ d.params = c.params := by
  cases h <;> exact ⟨rfl, rfl⟩

lemma Call.Takes.wake?_eq (h : c.Takes s turn s' d) (id : Nat) : s'.wake? id = s.wake? id := by
  cases h <;> rfl

lemma Call.Takes.nextId_eq (h : c.Takes s turn s' d) : s'.nextId = s.nextId := by
  cases h <;> rfl

/-- A turn of a caller changes what is registered for its own id only. -/
lemma Call.Takes.others (h : c.Takes s turn s' d) (hid : id ≠ c.id) :
    id ∈ s'.pending ↔ id ∈ s.pending := by
  cases h with
  | register => simp [hid]
  | unsend | giveUp => simp [hid]
  | _ => exact Iff.rfl

lemma Call.Takes.agrees (h : c.Takes s turn s' d) (ha : c.Agrees s) : d.Agrees s' := by
  unfold Agrees at ha
  cases h with
  | register hstage =>
    rw [hstage] at ha
    refine iff_of_true ?_ ha.2
    exact List.mem_append_right _ (List.mem_singleton_self c.id)
  | unsend hstage | giveUp hstage =>
    show c.id ∉ s.pending.filter (· != c.id)
    simp
  | finish hstage hwake =>
    rw [hstage] at ha
    refine ⟨fun hin => ?_, hwake⟩
    rw [ha.1 hin] at hwake
    exact absurd hwake (by simp)
  | spoil hstage | post hstage | refuse hstage | expire hstage =>
    rw [hstage] at ha
    exact ha

/-- A call is queued by the turn that sends its request, and by no other. -/
lemma Call.Takes.isQueued (h : c.Takes s turn s' d) :
    d.stage.isQueued = (c.stage.isQueued || (c.sends s turn).isSome) := by
  cases h with
  | register hstage => rw [hstage]; rfl
  | spoil hstage hparams => simp [Call.enter, Stage.isQueued, sends, hstage, hparams]
  | post hstage hparams hopen => simp [Call.enter, Stage.isQueued, sends, hstage, hparams, hopen]
  | refuse hstage hparams hopen => simp [Call.enter, Stage.isQueued, sends, hstage, hparams, hopen]
  | unsend hstage | finish hstage | expire hstage | giveUp hstage => rw [hstage]; rfl

end Turn

/-! ## The requests that were queued -/

/-- The id of the call whose request a message is. -/
def Outgoing.callId? : Outgoing → Option Nat
  | request r => r.id.nat64?
  | _ => none

def requestIds (messages : List Outgoing) : List Nat := messages.filterMap Outgoing.callId?

lemma Call.callId?_of_sends {c : Call} {s : Session} {turn : Turn} {o : Outgoing}
    (h : c.sends s turn = some o) : o.callId? = some c.id ∧ c.stage.isQueued = false := by
  unfold sends at h
  split at h
  · split at h
    · rename_i hstage _
      rw [Option.ite_none_right_eq_some] at h
      obtain ⟨-, h⟩ := h
      cases h
      rw [hstage]
      refine ⟨?_, rfl⟩
      simp [Outgoing.callId?, request, Json.nat64?]
    · exact absurd h (by simp)
  · exact absurd h (by simp)

namespace Exchange

/-- How a step wakes the call with an id. -/
def signal? (e : Exchange) (id : Nat) : Step → Option Wake
  | .session m => e.session.signal? id m
  | _ => none

/-- The first that a run had for the call with an id. -/
def firstSignal? (past : List (Exchange × Step)) (id : Nat) : Option Wake :=
  past.findSome? fun x => x.1.signal? id x.2

/-- How session and calls fit together after a run. -/
structure Sound (past : List (Exchange × Step)) (e : Exchange) : Prop where
  ids : e.calls.map Call.id = List.range' 1 e.calls.length
  nextId : e.session.nextId = (e.calls.length + 1) % Decimal.limit64
  known : ∀ id, id ∈ e.session.pending ∨ e.session.wake? id ≠ none → id ∈ e.calls.map Call.id
  agrees : ∀ c ∈ e.calls, c.Agrees e.session
  wakes : ∀ id, e.session.wake? id = firstSignal? past id
  requests : ∀ id, id ∈ requestIds (queued past) ↔
    ∃ c ∈ e.calls, c.id = id ∧ c.stage.isQueued = true
  once : (requestIds (queued past)).Nodup

variable {past : List (Exchange × Step)} {e : Exchange}

lemma firstSignal?_append (past : List (Exchange × Step)) (e : Exchange) (st : Step) (id : Nat) :
    firstSignal? (past ++ [(e, st)]) id = (firstSignal? past id).or (e.signal? id st) := by
  rw [firstSignal?, List.findSome?_append, List.findSome?_singleton]
  rfl

lemma requestIds_append (past : List (Exchange × Step)) (e : Exchange) (st : Step) :
    requestIds (queued (past ++ [(e, st)])) =
      requestIds (queued past) ++ ((e.sends st).bind Outgoing.callId?).toList := by
  rw [queued_append, requestIds, List.filterMap_append]
  cases h : e.sends st with
  | none => rfl
  | some o =>
    cases ho : o.callId? with
    | none => simp [ho, requestIds]
    | some i => simp [ho, requestIds]

lemma Sound.nodup (h : Sound past e) : (e.calls.map Call.id).Nodup := by
  rw [h.ids]
  exact List.nodup_range'

lemma Sound.id_eq (h : Sound past e) {n : Nat} {c : Call} (hc : e.calls[n]? = some c) :
    c.id = n + 1 := by
  have hid : (e.calls.map Call.id)[n]? = some c.id := by rw [List.getElem?_map, hc]; rfl
  rw [h.ids] at hid
  obtain ⟨hlt, hget⟩ := List.getElem?_eq_some_iff.1 hid
  rw [List.getElem_range'] at hget
  omega

lemma Sound.unique (h : Sound past e) {c d : Call} (hc : c ∈ e.calls) (hd : d ∈ e.calls)
    (heq : c.id = d.id) : c = d :=
  List.inj_on_of_nodup_map h.nodup hc hd heq

lemma ids_set {n : Nat} {c d : Call} (hc : e.calls[n]? = some c) (hid : d.id = c.id) :
    (e.calls.set n d).map Call.id = e.calls.map Call.id := by
  obtain ⟨hlt, rfl⟩ := List.getElem?_eq_some_iff.1 hc
  have hlt' : n < (e.calls.map Call.id).length := by rwa [List.length_map]
  have hget : d.id = (e.calls.map Call.id)[n] := by rw [hid, List.getElem_map]
  rw [List.map_set, hget, List.set_getElem_self]

/-- After a call has moved on, a call is that one or an old one of another id. -/
lemma Sound.mem_set_iff (h : Sound past e) {n : Nat} {c d c' : Call} (hc : e.calls[n]? = some c) :
    c' ∈ e.calls.set n d ↔ c' = d ∨ c' ∈ e.calls ∧ c'.id ≠ c.id := by
  have hlt : n < e.calls.length := (List.getElem?_eq_some_iff.1 hc).1
  have hid := h.id_eq hc
  constructor
  · intro hmem
    obtain ⟨m, hm⟩ := List.mem_iff_getElem?.1 hmem
    by_cases heq : n = m
    · rw [← heq, List.getElem?_set_self hlt] at hm
      exact .inl (Option.some.inj hm).symm
    · rw [List.getElem?_set_ne heq] at hm
      have hid' := h.id_eq hm
      exact .inr ⟨List.mem_of_getElem? hm, by omega⟩
  · rintro (rfl | ⟨hold, hne⟩)
    · exact List.mem_of_getElem? (List.getElem?_set_self hlt)
    · obtain ⟨m, hm⟩ := List.mem_iff_getElem?.1 hold
      have hid' := h.id_eq hm
      have heq : n ≠ m := by
        rintro rfl
        exact hne (hid'.trans hid.symm)
      rw [← List.getElem?_set_ne heq] at hm
      exact List.mem_of_getElem? hm

/-! ## Steps -/

lemma Sound.signalled (h : Sound past e) {st : Step} {s : Session}
    (hs : Session.Signalled e.session (e.signal? · st) s)
    (hsends : (e.sends st).bind Outgoing.callId? = none) :
    Sound (past ++ [(e, st)]) ⟨s, e.calls⟩ := by
  refine ⟨h.ids, hs.nextId.trans h.nextId, ?_, ?_, ?_, ?_, ?_⟩
  · rintro id (hin | hwake)
    · exact h.known id (.inl ((hs.pending id).1 hin).1)
    · refine h.known id ?_
      by_contra hno
      rw [not_or, not_not] at hno
      exact hwake ((hs.untouched hno.1).2.trans hno.2)
  · intro c hc
    exact (h.agrees c hc).signalled hs
  · intro id
    rw [firstSignal?_append, ← h.wakes]
    exact hs.wake id
  · intro id
    rw [requestIds_append, hsends, Option.toList_none, List.append_nil]
    exact h.requests id
  · rw [requestIds_append, hsends, Option.toList_none, List.append_nil]
    exact h.once

lemma Sound.begin (h : Sound past e) (hfew : e.calls.length + 1 < Decimal.limit64) (method : String)
    (params : Except String (Option Json)) :
    Sound (past ++ [(e, .begin method params)])
      ⟨{ e.session with nextId := (e.session.nextId + 1) % Decimal.limit64 },
        e.calls ++ [⟨e.session.nextId, method, params, .numbered⟩]⟩ := by
  have hnext : e.session.nextId = e.calls.length + 1 := by
    rw [h.nextId, Nat.mod_eq_of_lt hfew]
  -- an id that is registered or was woken is that of a call, and those are all smaller
  have hfresh : ¬ (e.session.nextId ∈ e.session.pending ∨
      e.session.wake? e.session.nextId ≠ none) := by
    intro hknown
    have hin := h.known _ hknown
    rw [h.ids, hnext, List.mem_range'_1] at hin
    omega
  rw [not_or, not_not] at hfresh
  have hsame : ∀ id, firstSignal? (past ++ [(e, Step.begin method params)]) id =
      e.session.wake? id := by
    intro id
    rw [firstSignal?_append, ← h.wakes]
    exact Option.or_none
  have hqueued : requestIds (queued (past ++ [(e, Step.begin method params)])) =
      requestIds (queued past) := by
    rw [requestIds_append]
    exact List.append_nil _
  refine ⟨?_, ?_, ?_, ?_, ?_, ?_, ?_⟩
  · rw [List.map_append, h.ids, List.length_append, List.length_singleton, List.range'_1_concat,
      List.map_singleton, hnext, Nat.add_comm 1]
  · rw [List.length_append, List.length_singleton, hnext]
  · intro id hknown
    rw [List.map_append]
    exact List.mem_append_left _ (h.known id hknown)
  · intro c hc
    rcases List.mem_append.1 hc with hold | hnew
    · exact h.agrees c hold
    · rw [List.mem_singleton] at hnew
      subst hnew
      exact hfresh
  · intro id
    exact (hsame id).symm
  · intro id
    rw [hqueued, h.requests]
    constructor
    · rintro ⟨c, hc, hid, hstage⟩
      exact ⟨c, List.mem_append_left _ hc, hid, hstage⟩
    · rintro ⟨c, hc, hid, hstage⟩
      rcases List.mem_append.1 hc with hold | hnew
      · exact ⟨c, hold, hid, hstage⟩
      · rw [List.mem_singleton] at hnew
        rw [hnew] at hstage
        exact absurd hstage (by simp [Stage.isQueued])
  · rw [hqueued]
    exact h.once

section Turn

variable {n : Nat} {t : Turn} {c d : Call} {s : Session} (hc : e.calls[n]? = some c)
  (ht : c.Takes e.session t s d)

include hc

lemma requestIds_turn : requestIds (queued (past ++ [(e, Step.turn n t)])) =
    requestIds (queued past) ++ if (c.sends e.session t).isSome then [c.id] else [] := by
  have hsends : e.sends (.turn n t) = c.sends e.session t := by rw [sends, hc]; rfl
  rw [requestIds_append, hsends]
  cases ho : c.sends e.session t with
  | none => rfl
  | some o => rw [Option.bind_some, (Call.callId?_of_sends ho).1]; rfl

/-- A turn that sends a request is of a call that has not sent one. -/
lemma Sound.once_turn (h : Sound past e) :
    (requestIds (queued (past ++ [(e, Step.turn n t)]))).Nodup := by
  rw [requestIds_turn hc]
  cases ho : c.sends e.session t with
  | none => simpa using h.once
  | some o =>
    have hnot : c.id ∉ requestIds (queued past) := by
      intro hin
      obtain ⟨c', hc', hid, hstage⟩ := (h.requests c.id).1 hin
      obtain rfl := h.unique hc' (List.mem_of_getElem? hc) hid
      rw [(Call.callId?_of_sends ho).2] at hstage
      exact absurd hstage (by simp)
    rw [Option.isSome_some, if_pos rfl]
    exact h.once.append (List.nodup_singleton _) (List.disjoint_singleton.2 hnot)

include ht

/-- A turn that sends a request makes its call one whose request was sent. -/
lemma Sound.requests_turn (h : Sound past e) (id : Nat) :
    id ∈ requestIds (queued (past ++ [(e, Step.turn n t)])) ↔
      ∃ c ∈ e.calls.set n d, c.id = id ∧ c.stage.isQueued = true := by
  have hmem : c ∈ e.calls := List.mem_of_getElem? hc
  have hnew : d ∈ e.calls.set n d := (h.mem_set_iff hc).2 (.inl rfl)
  have hqueued := ht.isQueued
  rw [requestIds_turn hc, List.mem_append, h.requests]
  constructor
  · rintro (⟨c', hc', hid, hstage⟩ | hin)
    · by_cases heq : c'.id = c.id
      · obtain rfl := h.unique hc' hmem heq
        exact ⟨d, hnew, ht.id_eq.trans hid, by rw [hqueued, hstage]; rfl⟩
      · exact ⟨c', (h.mem_set_iff hc).2 (.inr ⟨hc', heq⟩), hid, hstage⟩
    · rw [List.mem_ite_nil_right, List.mem_singleton] at hin
      obtain ⟨hsome, rfl⟩ := hin
      exact ⟨d, hnew, ht.id_eq, by rw [hqueued, hsome, Bool.or_true]⟩
  · rintro ⟨c', hc', hid, hstage⟩
    rcases (h.mem_set_iff hc).1 hc' with rfl | ⟨hold, -⟩
    · rw [hqueued, Bool.or_eq_true] at hstage
      rw [ht.id_eq] at hid
      rcases hstage with hold | hsome
      · exact .inl ⟨c, hmem, hid, hold⟩
      · refine .inr ?_
        rw [if_pos hsome, hid]
        exact List.mem_singleton_self id
    · exact .inl ⟨c', hold, hid, hstage⟩

lemma Sound.turn (h : Sound past e) : Sound (past ++ [(e, .turn n t)]) ⟨s, e.calls.set n d⟩ := by
  have hmem : c ∈ e.calls := List.mem_of_getElem? hc
  have hids := ids_set hc ht.id_eq
  refine ⟨?_, ?_, ?_, ?_, ?_, h.requests_turn hc ht, h.once_turn hc⟩
  · rw [hids, h.ids, List.length_set]
  · rw [ht.nextId_eq, h.nextId, List.length_set]
  · intro id hknown
    rw [hids]
    rw [ht.wake?_eq] at hknown
    by_cases hid : id = c.id
    · rw [hid]
      exact List.mem_map_of_mem hmem
    · rw [ht.others hid] at hknown
      exact h.known id hknown
  · intro c' hc'
    -- the call itself has moved on, and of the others nothing has changed
    rcases (h.mem_set_iff hc).1 hc' with rfl | ⟨hold, hid⟩
    · exact ht.agrees (h.agrees c hmem)
    · exact (h.agrees c' hold).congr (ht.others hid) (ht.wake?_eq _)
  · intro id
    rw [firstSignal?_append, ← h.wakes, ht.wake?_eq]
    exact Option.or_none.symm

end Turn

lemma sound_start : Sound [] .start := by
  refine ⟨rfl, rfl, ?_, ?_, fun _ => rfl, ?_, List.nodup_nil⟩
  · rintro id (hin | hwake)
    · exact absurd hin List.not_mem_nil
    · exact absurd rfl hwake
  · intro c hc
    exact absurd hc List.not_mem_nil
  · intro id
    refine iff_of_false List.not_mem_nil ?_
    rintro ⟨c, hc, -⟩
    exact absurd hc List.not_mem_nil

/-- **Every run is sound**, as long as fewer calls were begun than there are ids. -/
theorem Runs.sound (h : Runs past e) (hfew : e.calls.length < Decimal.limit64) : Sound past e := by
  induction h with
  | start => exact sound_start
  | step _ next ih =>
    cases steps_of_step? next with
    | begin method params =>
      rw [List.length_append, List.length_singleton] at hfew
      exact (ih (by omega)).begin hfew method params
    | turn hc ht =>
      rw [List.length_set] at hfew
      exact (ih hfew).turn hc ht
    | notify method params hopen =>
      refine (ih hfew).signalled (.quiet (fun _ => rfl) rfl rfl rfl) ?_
      rw [sends, if_pos hopen]
      rfl
    | unheard method params hopen =>
      refine (ih hfew).signalled (.quiet (fun _ => rfl) rfl rfl rfl) ?_
      rw [sends, if_neg (by simp [hopen])]
      rfl
    | @session m s hcallers hmove =>
      refine (ih hfew).signalled (Session.move?_signalled hmove hcallers) ?_
      cases m with
      | dispatch =>
        rw [sends]
        split
        · rfl
        · rfl
      | _ => rfl

end Exchange

end ServerLink.Rpc
