import Mathlib
import ServerLink.Proofs.Rpc.Queue

/-!
# What wakes a call

A call is woken by the answer that is handed out while its id is registered, or without an answer
when all that wait are woken.  Nothing else does.

**Signals.**  `Session.signal? id m` is how the move `m` wakes the call with the id, and
**`move?_signalled`** is what a move does to all calls at once: those signalled are no longer
registered, and the signal is what they were woken with unless they had been woken before.

**Everything else.**  `dispatch_stray`: a message in hand that answers no registered call leaves the
session as it is, except that the reply to a request joins the queue and something may be shown.
-/

namespace ServerLink.Rpc

namespace Session

/-- How a move wakes the call with an id. -/
def signal? (s : Session) (id : Nat) : Move → Option Wake
  | .dispatch =>
    match s.inHand? with
    | some (.response r) =>
      if r.id.nat64? = some id ∧ id ∈ s.pending then some (.answered r) else none
    | _ => none
  | .cancelAll | .wake => if id ∈ s.pending then some .cancelled else none
  | _ => none

/-- What becomes of the registered ids and of the calls woken when each call is signalled so. -/
structure Signalled (s : Session) (signal : Nat → Option Wake) (t : Session) : Prop where
  waits : ∀ id w, signal id = some w → id ∈ s.pending
  pending : ∀ id, id ∈ t.pending ↔ id ∈ s.pending ∧ signal id = none
  wake : ∀ id, t.wake? id = (s.wake? id).or (signal id)
  nextId : t.nextId = s.nextId

variable {s t : Session} {id : Nat}

lemma signal?_dispatch_iff {w : Wake} :
    s.signal? id .dispatch = some w ↔ ∃ r, s.Answers id r ∧ w = .answered r := by
  rw [signal?]
  constructor
  · intro h
    split at h
    · rename_i r hhand
      rw [Option.ite_none_right_eq_some] at h
      obtain ⟨⟨hid, hin⟩, hw⟩ := h
      cases hw
      exact ⟨r, ⟨hhand, hid, hin⟩, rfl⟩
    · exact absurd h (by simp)
  · rintro ⟨r, ⟨hhand, hid, hin⟩, rfl⟩
    simp only [hhand, hid, hin, and_self, if_true]

lemma signal?_dispatch_none (h : ∀ id r, ¬ s.Answers id r) (id : Nat) :
    s.signal? id .dispatch = none := by
  rw [Option.eq_none_iff_forall_not_mem]
  rintro w hw
  obtain ⟨r, hr, -⟩ := signal?_dispatch_iff.1 hw
  exact h id r hr

/-- The response in hand answers the call of its own id only. -/
lemma signal?_of_answers {r : Response} {i : Nat} (h : s.Answers i r) (id : Nat) :
    s.signal? id .dispatch = if id = i then some (.answered r) else none := by
  obtain ⟨hhand, hid, hin⟩ := h
  by_cases heq : id = i
  · rw [if_pos heq, heq]
    exact signal?_dispatch_iff.2 ⟨r, ⟨hhand, hid, hin⟩, rfl⟩
  · have hne : ¬ (some i = some id ∧ id ∈ s.pending) := fun ⟨hi, _⟩ =>
      heq (Option.some.inj hi).symm
    simp only [signal?, hhand, hid, hne, heq, if_false]

lemma Signalled.quiet {signal : Nat → Option Wake} (hsignal : ∀ id, signal id = none)
    (hpending : t.pending = s.pending) (hwoken : t.woken = s.woken) (hnext : t.nextId = s.nextId) :
    Signalled s signal t := by
  refine ⟨?_, ?_, ?_, hnext⟩
  · intro id w h
    rw [hsignal] at h
    exact absurd h (by simp)
  · intro id
    rw [hpending, hsignal]
    simp
  · intro id
    rw [hsignal, Option.or_none, wake?, wake?, hwoken]

/-- A call that is not registered hears nothing. -/
lemma Signalled.untouched {signal : Nat → Option Wake} (h : Signalled s signal t)
    (hid : id ∉ s.pending) : id ∉ t.pending ∧ t.wake? id = s.wake? id := by
  have hnone : signal id = none := by
    rw [Option.eq_none_iff_forall_not_mem]
    exact fun w hw => hid (h.waits id w hw)
  refine ⟨fun hin => hid ((h.pending id).1 hin).1, ?_⟩
  rw [h.wake, hnone, Option.or_none]

/-- A call that is registered just if it was not woken stays so. -/
lemma Signalled.balanced {signal : Nat → Option Wake} (h : Signalled s signal t)
    (hid : id ∈ s.pending ↔ s.wake? id = none) : id ∈ t.pending ↔ t.wake? id = none := by
  rw [h.pending, h.wake, Option.or_eq_none_iff, hid]

lemma lookup_cancelled (ids : List Nat) (id : Nat) :
    (ids.map fun i => (i, Wake.cancelled)).lookup id =
      if id ∈ ids then some .cancelled else none := by
  induction ids with
  | nil => rfl
  | cons i ids ih =>
    rw [List.map_cons, List.lookup_cons, ih]
    by_cases h : id = i
    · simp [h]
    · have hne : (id == i) = false := by simpa using h
      simp [h, hne]

lemma cancelWaiting_signalled (s : Session) :
    Signalled s (fun id => if id ∈ s.pending then some .cancelled else none) s.cancelWaiting := by
  refine ⟨?_, ?_, ?_, rfl⟩
  · intro id w h
    by_contra hid
    simp [hid] at h
  · intro id
    simp [cancelWaiting]
  · intro id
    rw [wake?, cancelWaiting, List.lookup_append, lookup_cancelled, wake?]

lemma answer_signalled {r : Response} {i : Nat} (h : s.Answers i r)
    (hpending : t.pending = s.pending.filter (· != i))
    (hwoken : t.woken = s.woken ++ [(i, .answered r)]) (hnext : t.nextId = s.nextId) :
    Signalled s (s.signal? · .dispatch) t := by
  refine ⟨?_, ?_, ?_, hnext⟩
  · intro id w hw
    obtain ⟨r', hr', -⟩ := signal?_dispatch_iff.1 hw
    exact hr'.2.2
  · intro id
    rw [hpending, List.mem_filter, signal?_of_answers h]
    by_cases heq : id = i
    · simp [heq]
    · simp [heq]
  · intro id
    rw [wake?, hwoken, List.lookup_append, signal?_of_answers h, List.lookup_cons, List.lookup_nil,
      wake?]
    by_cases heq : id = i
    · simp [heq]
    · have hne : (id == i) = false := by simpa using heq
      simp [heq, hne]

/-- **Every move that is no caller's** signals exactly as `signal?` says. -/
theorem move?_signalled {m : Move} (h : s.move? m = some t) (hcallers : m.isCallers = false) :
    Signalled s (s.signal? · m) t := by
  -- only an answer and the two ways to wake all touch what is registered
  cases moves_of_move? h with
  | allot | register | post | withdraw => exact absurd hcallers (by simp [Move.isCallers])
  | answer hanswer => exact answer_signalled hanswer rfl rfl rfl
  | reply hhand =>
    have hnone : ∀ id r, ¬ s.Answers id r := by simp [Answers, hhand]
    exact .quiet (signal?_dispatch_none hnone) rfl rfl rfl
  | ignore _ hanswer => exact .quiet (signal?_dispatch_none hanswer) rfl rfl rfl
  | cancelAll => exact cancelWaiting_signalled s
  | wake =>
    obtain ⟨hwaits, hpending, hwake, hnext⟩ := cancelWaiting_signalled s
    exact ⟨hwaits, hpending, hwake, hnext⟩
  | _ => exact .quiet (fun _ => rfl) rfl rfl rfl

/-- **A message that answers no registered call** leaves the session as it is, except that the reply
to a request joins the queue and something may be shown. -/
theorem dispatch_stray (h : s.move? .dispatch = some t) (hstray : ∀ id r, ¬ s.Answers id r) :
    ∃ shown, t = { s with
      phase := .running, outbox := s.outbox ++ (s.adds .dispatch).map .message
      shown := shown } := by
  cases moves_of_move? h with
  | answer hanswer => exact absurd hanswer (hstray _ _)
  | @reply r shown hhand =>
    have hadds : s.adds .dispatch = [(s.replyTo r).1.text] := by rw [adds, hhand]
    exact ⟨shown, by rw [hadds]; rfl⟩
  | @ignore text shown _ _ hrequest =>
    rw [adds_dispatch_of_not_request hrequest]
    exact ⟨shown, by rw [List.map_nil, List.append_nil]⟩

end Session

end ServerLink.Rpc
