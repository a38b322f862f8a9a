import Mathlib
import ServerLink.Proofs.Rpc.Moves
import ServerLink.Rpc.Exchange

/-!
# The turns of callers, one by one

`Call.Takes` says what each turn of a caller needs and what comes of it for the session and the
call, and `Exchange.Steps` the same for a step of anybody.

* **`takes_of_turn?`**, **`steps_of_step?`** — nothing else can happen.
* `call_eq_turns` — a call that is begun at once is begun in turns with nobody in between.
-/

namespace ServerLink.Rpc

/-- The turn `t` of the caller leads to the session `s'` and the call `c'`. -/
inductive Call.Takes (c : Call) (s : Session) : Turn → Session → Call → Prop where
  | register (hstage : c.stage = .numbered) :
      Takes c s .register { s with pending := s.pending ++ [c.id] } (c.enter .registered)
  | spoil {text : String} (hstage : c.stage = .registered) (hparams : c.params = .error text) :
      Takes c s .post s (c.enter (.done (.unwritable text)))
  | post {params : Option Json} (hstage : c.stage = .registered) (hparams : c.params = .ok params)
      (hopen : s.isOpen = true) :
      Takes c s .post
        { s with outbox := s.outbox ++ [.message (Session.requestText c.id c.method params)] }
        (c.enter .waiting)
  | refuse {params : Option Json} (hstage : c.stage = .registered) (hparams : c.params = .ok params)
      (hopen : s.isOpen = false) : Takes c s .post s (c.enter .refused)
  | unsend (hstage : c.stage = .refused) :
      Takes c s .withdraw { s with pending := s.pending.filter (· != c.id) }
        (c.enter (.done .unsent))
  | finish {w : Wake} (hstage : c.stage = .waiting) (hwake : s.wake? c.id = some w) :
      Takes c s .finish s (c.enter (.done (.woken w)))
  | expire (hstage : c.stage = .waiting) (hwake : s.wake? c.id = none) :
      Takes c s .expire s (c.enter .late)
  | giveUp (hstage : c.stage = .late) :
      Takes c s .withdraw { s with pending := s.pending.filter (· != c.id) }
        (c.enter (.done .timedOut))

/-- **What a turn needs and what comes of it.** -/
theorem Call.takes_of_turn? {c d : Call} {s s' : Session} {t : Turn}
    (h : c.turn? s t = some (s', d)) : c.Takes s t s' d := by
  unfold turn? at h
  split at h
  · cases h
    exact .register ‹_›
  · split at h
    · cases h
      exact .spoil ‹_› ‹_›
    · rename_i params hparams
      cases hopen : s.isOpen with
      | true =>
        simp only [Session.move?, hopen, if_true] at h
        cases h
        exact .post ‹_› hparams hopen
      | false =>
        simp only [Session.move?, hopen, Bool.false_eq_true, if_false] at h
        cases h
        exact .refuse ‹_› hparams hopen
  · cases h
    exact .unsend ‹_›
  · rw [Option.map_eq_some_iff] at h
    obtain ⟨w, hwake, h⟩ := h
    cases h
    exact .finish ‹_› hwake
  · rw [Option.ite_none_right_eq_some, Option.isNone_iff_eq_none] at h
    obtain ⟨hwake, h⟩ := h
    cases h
    exact .expire ‹_› hwake
  · cases h
    exact .giveUp ‹_›
  · exact absurd h (by simp)

namespace Exchange

/-- The step `st` leads from `e` to `f`. -/
inductive Steps (e : Exchange) : Step → Exchange → Prop where
  | begin (method : String) (params : Except String (Option Json)) :
      Steps e (.begin method params)
        ⟨{ e.session with nextId := (e.session.nextId + 1) % Decimal.limit64 },
          e.calls ++ [⟨e.session.nextId, method, params, .numbered⟩]⟩
  | turn {n : Nat} {t : Turn} {c d : Call} {s : Session} (hc : e.calls[n]? = some c)
      (h : c.Takes e.session t s d) : Steps e (.turn n t) ⟨s, e.calls.set n d⟩
  | notify (method : String) (params : Option Json) (hopen : e.session.isOpen = true) :
      Steps e (.notify method params)
        ⟨{ e.session with
          outbox := e.session.outbox ++
            [.message (Notification.text ⟨version, method, params⟩)] }, e.calls⟩
  | unheard (method : String) (params : Option Json) (hopen : e.session.isOpen = false) :
      Steps e (.notify method params) e
  | session {m : Move} {s : Session} (hcallers : m.isCallers = false)
      (h : e.session.move? m = some s) : Steps e (.session m) ⟨s, e.calls⟩

/-- **What a step needs and what comes of it.** -/
theorem steps_of_step? {e f : Exchange} {st : Step} (h : e.step? st = some f) : Steps e st f := by
  cases st with
  | begin method params =>
    cases h
    exact .begin method params
  | turn n t =>
    rw [step?, Option.bind_eq_some_iff] at h
    obtain ⟨c, hc, h⟩ := h
    rw [Option.map_eq_some_iff] at h
    obtain ⟨⟨s, d⟩, hturn, h⟩ := h
    cases h
    exact .turn hc (Call.takes_of_turn? hturn)
  | notify method params =>
    cases hopen : e.session.isOpen with
    | true =>
      simp only [step?, Session.notify, Session.move?, hopen, if_true] at h
      cases h
      exact .notify method params hopen
    | false =>
      simp only [step?, Session.notify, Session.move?, hopen, Bool.false_eq_true, if_false] at h
      cases h
      exact .unheard method params hopen
  | session m =>
    simp only [step?, Option.ite_none_left_eq_some, Bool.not_eq_true, Option.map_eq_some_iff] at h
    obtain ⟨hcallers, s, hmove, rfl⟩ := h
    exact .session hcallers hmove

/-- The turns of a call that nobody else moves between. -/
def turnsOf (e : Exchange) (method : String) (params : Option Json) : List Step :=
  [.begin method (.ok params), .turn e.calls.length .register, .turn e.calls.length .post,
    .turn e.calls.length .withdraw]

/-- **A call that is begun at once** is begun in turns that nobody comes between. -/
theorem call_eq_turns (e : Exchange) (method : String) (params : Option Json) :
    ((e.turnsOf method params).foldl step e).session = (e.session.call method params).1 := by
  have hset : ∀ (c d : Call), (e.calls ++ [c]).set e.calls.length d = e.calls ++ [d] := by simp
  cases hopen : e.session.isOpen with
  | true =>
    have hopen' : ∀ next pending, Session.isOpen { e.session with
        nextId := next, pending := pending } = true := fun _ _ => hopen
    simp [turnsOf, step, step?, hset, Call.turn?, Call.enter, Session.call, Session.move,
      Session.move?, hopen']
  | false =>
    have hopen' : ∀ next pending, Session.isOpen { e.session with
        nextId := next, pending := pending } = false := fun _ _ => hopen
    simp [turnsOf, step, step?, hset, Call.turn?, Call.enter, Session.call, Session.move,
      Session.move?, hopen']

end Exchange

end ServerLink.Rpc
