import Mathlib
import ServerLink.Proofs.Frame.Decode
import ServerLink.Proofs.Rpc.Callers

/-!
# Calls and their answers

Callers, the loop of the session, deadlines and the end of the session interleave in any way, and
any messages arrive.  **`Runs.correlated`**: each call that completes with a response completes with
the first one handed out for its own id while it was registered, no response completes two calls,
and no other message changes the outcome of any call.

**The bridge.**  `Sound` has it that a call was woken with the first signal of the run for its id,
and a signal that is an answer is the step that handed the response out (`firstAnswer_of_signal`).
-/

namespace ServerLink.Rpc

namespace Exchange

/-- A step of a run hands out a response that answers the registered call with this id. -/
def Accepts (x : Exchange × Step) (id : Nat) (r : Response) : Prop :=
  x.2 = .session .dispatch ∧ x.1.session.Answers id r

/-- A step of a run wakes all that wait without an answer, the call with this id among them. -/
def Cancels (x : Exchange × Step) (id : Nat) : Prop :=
  (x.2 = .session .cancelAll ∨ x.2 = .session .wake) ∧ id ∈ x.1.session.pending

/-- The step at the place `k` of a run is the first that answers the registered call with this id,
and `r` is the response it hands out. -/
structure FirstAnswer (past : List (Exchange × Step)) (id k : Nat) (r : Response) : Prop where
  accepts : ∃ x, past[k]? = some x ∧ Accepts x id r
  first : ∀ j < k, ∀ x, past[j]? = some x → ∀ r', ¬ Accepts x id r'

/-- How calls and messages correspond after a run. -/
structure Correlated (past : List (Exchange × Step)) (e : Exchange) : Prop where
  /-- No two calls have the same id. -/
  distinct : (e.calls.map Call.id).Nodup
  /-- What was written are the first of the messages queued; the requests among them have different
  ids, which are those of calls. -/
  written : ∃ sent, sent <+: queued past ∧ e.session.written = sent.map Outgoing.text
    ∧ (requestIds sent).Nodup ∧ ∀ id ∈ requestIds sent, id ∈ e.calls.map Call.id
  /-- A call that completed with a response completed with the first that was handed out for its id
  while it was registered. -/
  answered : ∀ c ∈ e.calls, ∀ r, c.stage = .done (.woken (.answered r)) →
    ∃ k, FirstAnswer past c.id k r
  /-- It returned the error of that response, or else what it reads of its result. -/
  returned : ∀ c ∈ e.calls, ∀ r form, c.stage = .done (.woken (.answered r)) →
    (∀ refusal, r.error = some refusal → c.result? form =
      some (.error (.server refusal.code refusal.message refusal.data)))
    ∧ (r.error = none → c.result? form = some ((form.read (r.result.getD .null)).mapError
      fun m => .badResult m.message))
  /-- No step answers two calls. -/
  single : ∀ c ∈ e.calls, ∀ c' ∈ e.calls, ∀ k r r', FirstAnswer past c.id k r →
    FirstAnswer past c'.id k r' → c = c' ∧ r = r'
  /-- A call that was woken, has timed out or was not sent is registered no more. -/
  gone : ∀ c ∈ e.calls, e.session.wake? c.id ≠ none ∨ c.stage = .done .timedOut
    ∨ c.stage = .done .unsent → c.id ∉ e.session.pending
  /-- A message that answers no registered call changes nothing for any call: the reply to a request
  joins the queue, something may be shown, and that is all. -/
  stray : ∀ f, e.step? (.session .dispatch) = some f → (∀ id r, ¬ e.session.Answers id r) →
    f.calls = e.calls ∧ ∃ shown, f.session = { e.session with
      phase := .running
      outbox := e.session.outbox ++ (e.session.adds .dispatch).map .message
      shown := shown }
  /-- The outcome of a call that is over, or has no time left, does not change any more. -/
  settled : ∀ (st : Step) (f : Exchange) (n : Nat) (c : Call), e.step? st = some f →
    e.calls[n]? = some c → (∀ ending, c.stage = .done ending → f.calls[n]? = some c)
    ∧ (c.stage = .late → f.calls[n]? = some c ∨ f.calls[n]? = some (c.enter (.done .timedOut)))
  /-- The first answer to a message that was queued is accepted, unless the call timed out or was
  cancelled before. -/
  accepted : ∀ c ∈ e.calls, ∀ r, c.id ∈ requestIds (queued past) →
    e.session.inHand? = some (.response r) → r.id.nat64? = some c.id →
    (∀ x ∈ past, ∀ r', ¬ Accepts x c.id r') → (∀ x ∈ past, ¬ Cancels x c.id) →
    c.stage ≠ .done .timedOut →
    ∃ f, e.step? (.session .dispatch) = some f ∧ f.session.wake? c.id = some (.answered r)

variable {past : List (Exchange × Step)} {e : Exchange}

/-! ## Signals of a run -/

lemma signal?_of_accepts {x : Exchange × Step} {id : Nat} {r : Response} (h : Accepts x id r) :
    x.1.signal? id x.2 = some (.answered r) := by
  rw [h.1]
  exact Session.signal?_dispatch_iff.2 ⟨r, h.2, rfl⟩

/-- A signal is an answer or a cancellation. -/
lemma signal?_cases {x : Exchange × Step} {id : Nat} {w : Wake} (h : x.1.signal? id x.2 = some w) :
    (∃ r, w = .answered r ∧ Accepts x id r) ∨ w = .cancelled ∧ Cancels x id := by
  obtain ⟨e, st⟩ := x
  cases st with
  | begin | turn | notify => exact absurd h (by simp [signal?])
  | session m =>
    cases m with
    | dispatch =>
      obtain ⟨r, hr, hw⟩ := Session.signal?_dispatch_iff.1 h
      exact .inl ⟨r, hw, rfl, hr⟩
    | cancelAll =>
      obtain ⟨hin, hw⟩ := Option.ite_none_right_eq_some.1 h
      exact .inr ⟨(Option.some.inj hw).symm, .inl rfl, hin⟩
    | wake =>
      obtain ⟨hin, hw⟩ := Option.ite_none_right_eq_some.1 h
      exact .inr ⟨(Option.some.inj hw).symm, .inr rfl, hin⟩
    | _ => exact absurd h (by simp [signal?, Session.signal?])

/-- A run that neither answered nor cancelled a call had nothing for it. -/
lemma firstSignal?_eq_none {id : Nat} (haccepts : ∀ x ∈ past, ∀ r, ¬ Accepts x id r)
    (hcancels : ∀ x ∈ past, ¬ Cancels x id) : firstSignal? past id = none := by
  rw [firstSignal?, List.findSome?_eq_none_iff]
  intro x hx
  rw [Option.eq_none_iff_forall_not_mem]
  intro w hw
  rcases signal?_cases hw with ⟨r, -, hr⟩ | ⟨-, hcancel⟩
  · exact haccepts x hx r hr
  · exact hcancels x hx hcancel

/-- The first signal of a run, if it is an answer, is the first answer. -/
lemma firstAnswer_of_signal {id : Nat} {r : Response}
    (h : firstSignal? past id = some (.answered r)) : ∃ k, FirstAnswer past id k r := by
  rw [firstSignal?, List.findSome?_eq_some_iff] at h
  obtain ⟨before, x, after, rfl, hx, hbefore⟩ := h
  refine ⟨before.length, ⟨x, ?_, ?_⟩, ?_⟩
  · rw [List.getElem?_append_right le_rfl, Nat.sub_self]
    rfl
  · rcases signal?_cases hx with ⟨r', hr', haccepts⟩ | ⟨hcancelled, -⟩
    · cases hr'
      exact haccepts
    · exact absurd hcancelled (by simp)
  · intro j hj y hy r' haccepts
    rw [List.getElem?_append_left hj] at hy
    have hnone := hbefore y (List.mem_of_getElem? hy)
    rw [signal?_of_accepts haccepts] at hnone
    exact absurd hnone (by simp)

lemma FirstAnswer.unique {id id' k : Nat} {r r' : Response} (h : FirstAnswer past id k r)
    (h' : FirstAnswer past id' k r') : id = id' ∧ r = r' := by
  obtain ⟨x, hx, -, hhand, hid, -⟩ := h.accepts
  obtain ⟨x', hx', -, hhand', hid', -⟩ := h'.accepts
  obtain rfl : x = x' := Option.some.inj (hx.symm.trans hx')
  obtain rfl : r = r' := by
    have := hhand.symm.trans hhand'
    simpa using this
  exact ⟨Option.some.inj (hid.symm.trans hid'), rfl⟩

/-! ## What steps leave alone -/

/-- A call that is over takes no turn, and one that has no time left only gives up. -/
lemma settled_of_step {st : Step} {f : Exchange} {n : Nat} {c : Call} (h : e.step? st = some f)
    (hc : e.calls[n]? = some c) : (∀ ending, c.stage = .done ending → f.calls[n]? = some c)
    ∧ (c.stage = .late → f.calls[n]? = some c
      ∨ f.calls[n]? = some (c.enter (.done .timedOut))) := by
  cases steps_of_step? h with
  | begin =>
    have hkeep : ∀ new, (e.calls ++ [new])[n]? = some c := by
      intro new
      rw [List.getElem?_append_left (List.getElem?_eq_some_iff.1 hc).1, hc]
    exact ⟨fun _ _ => hkeep _, fun _ => .inl (hkeep _)⟩
  | @turn m t c' d s hc' ht =>
    by_cases heq : m = n
    · subst heq
      obtain rfl : c' = c := Option.some.inj (hc'.symm.trans hc)
      have hlt := (List.getElem?_eq_some_iff.1 hc).1
      rw [List.getElem?_set_self hlt]
      cases ht with
      | giveUp hstage =>
        refine ⟨fun ending hover => ?_, fun _ => .inr rfl⟩
        rw [hstage] at hover
        exact absurd hover (by simp)
      | register hstage | spoil hstage | post hstage | refuse hstage | unsend hstage
      | finish hstage | expire hstage =>
        rw [hstage]
        exact ⟨fun _ hover => absurd hover (by simp), fun hlate => absurd hlate (by simp)⟩
    · rw [List.getElem?_set_ne heq]
      exact ⟨fun _ _ => hc, fun _ => .inl hc⟩
  | notify | unheard | session => exact ⟨fun _ _ => hc, fun _ => .inl hc⟩

lemma step?_dispatch {f : Exchange} : e.step? (.session .dispatch) = some f ↔
    ∃ s, e.session.move? .dispatch = some s ∧ f = ⟨s, e.calls⟩ := by
  simp only [step?, Move.isCallers, Bool.false_eq_true, if_false, Option.map_eq_some_iff]
  constructor
  · rintro ⟨s, hs, rfl⟩
    exact ⟨s, hs, rfl⟩
  · rintro ⟨s, hs, rfl⟩
    exact ⟨s, hs, rfl⟩

/-- What is in hand is handed out, and wakes the registered call that it answers. -/
lemma dispatch_answers {id : Nat} {r : Response} (h : e.session.Answers id r)
    (hwake : e.session.wake? id = none) :
    ∃ f, e.step? (.session .dispatch) = some f ∧ f.session.wake? id = some (.answered r) := by
  obtain ⟨s, hs⟩ : ∃ s, e.session.move? .dispatch = some s := by
    have hhand := h.1
    rw [Session.inHand?] at hhand
    split at hhand
    · rename_i text hphase
      exact ⟨_, by rw [Session.move?, hphase]⟩
    · exact absurd hhand (by simp)
  refine ⟨⟨s, e.calls⟩, step?_dispatch.2 ⟨s, hs, rfl⟩, ?_⟩
  have hsignalled := Session.move?_signalled hs rfl
  rw [hsignalled.wake, hwake, Session.signal?_dispatch_iff.2 ⟨r, h, rfl⟩]
  rfl

/-- **Calls and answers correspond** after every run, as long as fewer calls were begun than there
are ids. -/
theorem Runs.correlated (h : Runs past e) (hfew : e.calls.length < Decimal.limit64) :
    Correlated past e := by
  have hsound := h.sound hfew
  constructor
  case distinct => exact hsound.nodup
  case written =>
    obtain ⟨rest, hrest⟩ := h.writes.written
    refine ⟨(queued past).take e.session.written.length, List.take_prefix _ _, ?_, ?_, ?_⟩
    · rw [List.map_take, ← hrest, List.take_left']
      rfl
    · exact hsound.once.sublist ((List.take_sublist _ _).filterMap _)
    · intro id hid
      have hin := ((List.take_sublist _ _).filterMap Outgoing.callId?).subset hid
      obtain ⟨c, hc, rfl, -⟩ := (hsound.requests id).1 hin
      exact List.mem_map_of_mem hc
  case answered =>
    intro c hc r hstage
    have hagrees := hsound.agrees c hc
    unfold Call.Agrees at hagrees
    rw [hstage] at hagrees
    exact firstAnswer_of_signal ((hsound.wakes c.id).symm.trans hagrees.2)
  case returned =>
    intro c hc r form hstage
    have hresult : c.result? form = some (Session.outcome form (.answered r)) := by
      rw [Call.result?, hstage]
      rfl
    rw [hresult, Session.outcome]
    constructor
    · intro refusal hrefusal
      rw [hrefusal]
    · intro hnone
      rw [hnone]
      cases form.read (r.result.getD .null) with
      | error m => rfl
      | ok v => rfl
  case single =>
    intro c hc c' hc' k r r' hk hk'
    obtain ⟨hid, hr⟩ := hk.unique hk'
    exact ⟨hsound.unique hc hc' hid, hr⟩
  case gone =>
    intro c hc hgone
    exact (hsound.agrees c hc).gone hgone
  case stray =>
    intro f hf hstray
    obtain ⟨s, hs, rfl⟩ := step?_dispatch.1 hf
    exact ⟨rfl, Session.dispatch_stray hs hstray⟩
  case settled =>
    intro st f n c hst hc
    exact settled_of_step hst hc
  case accepted =>
    intro c hc r hrequest hhand hid haccepts hcancels htime
    -- nothing has woken the call, so it is registered still
    have hwake : e.session.wake? c.id = none := by
      rw [hsound.wakes, firstSignal?_eq_none haccepts hcancels]
    obtain ⟨c', hc', heq, hqueued⟩ := (hsound.requests c.id).1 hrequest
    obtain rfl := hsound.unique hc' hc heq
    exact dispatch_answers
      ⟨hhand, hid, (hsound.agrees c' hc).registered hqueued hwake htime⟩ hwake

/-! ## A stale response in front of the answer -/

def stale : String := "\x7b\"jsonrpc\":\"2.0\",\"id\":999,\"result\":\"stale\"\x7d"

def reply : String := "\x7b\"jsonrpc\":\"2.0\",\"id\":1,\"result\":true\x7d"

/-- Both arrive in one chunk. -/
def replies : Bytes := Frame.ofMessage stale ++ Frame.ofMessage reply

/-- A call that was written and waits. -/
def asked : Exchange :=
  ⟨{ Session.start with
      nextId := 2, pending := [1], written := [Session.requestText 1 "hover" none] },
    [⟨1, "hover", .ok none, .waiting⟩]⟩

/-- The stale response is in hand, and the answer waits behind it. -/
def arrived : Exchange :=
  ⟨{ asked.session with decoder := ⟨[], [reply]⟩, phase := .handing stale }, asked.calls⟩

/-- The call is over. -/
def answered : Exchange :=
  ⟨{ asked.session with
      pending := [], woken := [(1, .answered ⟨version, .int 1, some (.bool true), none⟩)] },
    [⟨1, "hover", .ok none,
      .done (.woken (.answered ⟨version, .int 1, some (.bool true), none⟩))⟩]⟩

set_option maxRecDepth 4000 in
lemma decode_replies :
    Frame.decode replies = ⟨[Utf8.ofString stale, Utf8.ofString reply], [], none⟩ := by
  have hfirst : Frame.take replies = .whole (Utf8.ofString stale) (Frame.ofMessage reply) := rfl
  have hsecond : Frame.take (Frame.ofMessage reply) = .whole (Utf8.ofString reply) [] := rfl
  rw [Frame.decode_of_whole hfirst, Frame.decode_of_whole hsecond, Frame.decode_nil]

lemma absorb_replies : asked.step? (.session (.absorb replies)) = some arrived := by
  have habsorb : asked.session.decoder.absorb replies = ⟨⟨[], [stale, reply]⟩, [], none⟩ := by
    show Frame.Decoder.absorb .empty replies = _
    rw [Frame.Decoder.absorb]
    show Frame.Absorbed.mk ⟨(Frame.decode replies).rest, _ ++ (Frame.decode replies).bodies.map _⟩
      ((Frame.decode replies).bodies.filterMap _) (Frame.decode replies).fault = _
    rw [decode_replies]
    rfl
  simp only [step?, Session.move?, habsorb]
  rfl

/-- A stale response arrives in front of the answer, and the call completes with the answer. -/
theorem correlated_stale : ∃ past, Runs past answered
    ∧ answered.calls.length < Decimal.limit64 ∧ Correlated past answered := by
  have h1 := Runs.step .start (rfl : start.step? (.begin "hover" (.ok none)) = some _)
  have h2 := Runs.step h1 (rfl : Exchange.step? _ (.turn 0 .register) = some _)
  have h3 := Runs.step h2 (rfl : Exchange.step? _ (.turn 0 .post) = some _)
  have h4 := Runs.step h3 (rfl : Exchange.step? _ (.session (.write none)) = some asked)
  have h5 := Runs.step h4 absorb_replies
  have h6 := Runs.step h5 (rfl : arrived.step? (.session .dispatch) = some _)
  have h7 := Runs.step h6 (rfl : Exchange.step? _ (.session .deliver) = some _)
  have h8 := Runs.step h7 (rfl : Exchange.step? _ (.session .dispatch) = some _)
  have h9 := Runs.step h8 (rfl : Exchange.step? _ (.turn 0 .finish) = some answered)
  have hfew : answered.calls.length < Decimal.limit64 := by decide
  exact ⟨_, h9, hfew, h9.correlated hfew⟩

end Exchange

end ServerLink.Rpc
