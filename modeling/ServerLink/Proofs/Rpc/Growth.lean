import Mathlib
import ServerLink.Proofs.Rpc.Queue

/-!
# How a session grows

A session whose callers and loop move is still the same session: what was queued stays queued or
was written.

`Session.Grows s texts t` says that `s` becomes `t` by moves that add `texts` to the queue, and
`Session.Carries s texts` that these are all that was ever added to it.

* **`Carries.grows`**, `Carries.written`: what is written are the first of the texts that were
  added, however the session grew.
* `Grows.call`, `Grows.notify`: what a caller adds at once.
-/

namespace ServerLink.Rpc

/-- The method of a request or a notification. -/
def Outgoing.method? : Outgoing → Option String
  | request r => some r.method
  | notification n => some n.method
  | reply _ => none

namespace Session

/-- `s` becomes `t` by moves that add these texts to the queue. -/
inductive Grows (s : Session) : List String → Session → Prop where
  | refl : Grows s [] s
  | step {texts : List String} {t u : Session} {m : Move} (h : Grows s texts t)
      (hm : t.move? m = some u) : Grows s (texts ++ t.adds m) u

/-- These are the texts that were added to the queue. -/
def Carries (s : Session) (texts : List String) : Prop :=
  ∃ line taken, s.Drains line taken ∧ line.filterMap Outbound.text? = texts

/-- The message of a call, if the queue takes it. -/
def request? (s : Session) (method : String) (params : Option Json) : Option Outgoing :=
  if s.isOpen then some (.request ⟨version, .int s.nextId, method, params⟩) else none

/-- The message of a notification, if the queue takes it. -/
def notification? (s : Session) (method : String) (params : Option Json) : Option Outgoing :=
  if s.isOpen then some (.notification ⟨version, method, params⟩) else none

variable {s t u : Session} {m : Move} {texts more : List String}

lemma carries_start : Carries .start [] :=
  ⟨[], [], ⟨List.prefix_rfl, fun _ => rfl, List.prefix_rfl, fun _ => rfl, rfl⟩, rfl⟩

lemma Carries.written (h : s.Carries texts) : s.written <+: texts := by
  obtain ⟨line, taken, hdrains, rfl⟩ := h
  exact hdrains.writes.written

lemma text?_puts (s : Session) (m : Move) : (s.puts m).filterMap Outbound.text? = s.adds m := by
  cases m with
  | mark => rfl
  | _ => simp [puts, List.filterMap_map, Function.comp_def, Outbound.text?]

/-- **What was added stays added**, however the session grows. -/
lemma Carries.grows (h : s.Carries texts) (hgrows : Grows s more t) :
    t.Carries (texts ++ more) := by
  induction hgrows with
  | refl => simpa using h
  | @step more t u m _ hm ih =>
    obtain ⟨line, taken, hdrains, hline⟩ := ih
    refine ⟨line ++ t.puts m, taken ++ t.takes m, (moves_of_move? hm).drains hdrains, ?_⟩
    rw [List.filterMap_append, hline, text?_puts, List.append_assoc]

/-! ## What callers do -/

/-- Whoever can read any answer was answered without an error. -/
lemma outcome_any {wake : Wake} {answer : Json} (h : outcome .any wake = .ok answer) :
    ∃ r, wake = .answered r ∧ r.error = none := by
  cases wake with
  | cancelled => exact absurd h (by simp [outcome])
  | answered r =>
    cases herror : r.error with
    | none => exact ⟨r, rfl, herror⟩
    | some e => exact absurd h (by simp [outcome, herror])

/-- A call is queued under the next id, or it is not queued. -/
lemma call_cases (s : Session) (method : String) (params : Option Json) :
    (s.call method params).2 = .ok s.nextId
      ∧ s.request? method params = some (.request ⟨version, .int s.nextId, method, params⟩)
    ∨ (s.call method params).2 = .error unsent ∧ s.request? method params = none := by
  have hsame : ((s.move .allot).move (.register s.nextId)).isOpen = s.isOpen := rfl
  rw [request?, Session.call, move?, hsame]
  cases s.isOpen with
  | true => exact .inl ⟨rfl, rfl⟩
  | false => exact .inr ⟨rfl, rfl⟩

/-- A notification is queued, or it is not. -/
lemma notify_cases (s : Session) (method : String) (params : Option Json) :
    (s.notify method params).2 = none
      ∧ s.notification? method params = some (.notification ⟨version, method, params⟩)
    ∨ (s.notify method params).2 = some unsent ∧ s.notification? method params = none := by
  rw [notification?, Session.notify, move?]
  cases s.isOpen with
  | true => exact .inl ⟨rfl, rfl⟩
  | false => exact .inr ⟨rfl, rfl⟩

/-- A move that adds nothing, if it can happen. -/
lemma Grows.move (h : Grows s texts t) (hm : t.adds m = []) : Grows s texts (t.move m) := by
  rw [Session.move]
  cases hmove : t.move? m with
  | none => exact h
  | some u => simpa [hm] using h.step hmove

lemma Grows.notify (h : Grows s texts t) (method : String) (params : Option Json) :
    Grows s (texts ++ (t.notification? method params).toList.map Outgoing.text)
      (t.notify method params).1 := by
  cases hopen : t.isOpen with
  | true =>
    have hpost := h.step (m := .post (Notification.text ⟨version, method, params⟩))
      (by rw [move?, if_pos hopen])
    rw [notification?, if_pos hopen, Session.notify, move?, if_pos hopen]
    exact hpost
  | false =>
    rw [notification?, Session.notify, move?, hopen]
    simpa using h

lemma Grows.call (h : Grows s texts t) (method : String) (params : Option Json) :
    Grows s (texts ++ (t.request? method params).toList.map Outgoing.text)
      (t.call method params).1 := by
  have hbegun : Grows s texts ((t.move .allot).move (.register t.nextId)) := (h.move rfl).move rfl
  have hsame : ((t.move .allot).move (.register t.nextId)).isOpen = t.isOpen := rfl
  cases hopen : t.isOpen with
  | true =>
    have hpost := hbegun.step (m := .post (requestText t.nextId method params))
      (by rw [move?, if_pos (hsame.trans hopen)])
    rw [request?, if_pos hopen, Session.call, move?, if_pos (hsame.trans hopen)]
    exact hpost
  | false =>
    rw [request?, Session.call, move?, hsame, hopen]
    simpa using hbegun.move (m := .withdraw t.nextId) rfl

end Session

end ServerLink.Rpc
