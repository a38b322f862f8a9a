import Mathlib
import ServerLink.Proofs.History
import ServerLink.Proofs.Rpc.Queue

/-!
# Looking back on a run

**Places.**  A run up to one of its steps is a run (`Runs.before`), and what every step preserves
holds from the state where it first holds (`Runs.stays`).

**The loop.**  Once the loop has ended it never works again (`Runs.stays_ended`).

**Tickets.**  The marks that entered the queue have the tickets from zero, in order
(`Runs.tickets`), so each ticket is that of one mark.
-/

namespace ServerLink.Rpc

namespace Session

variable {s t : Session} {m : Move}

/-- A loop that has ended never works again. -/
lemma Moves.works (h : Moves s m t) (hs : s.works = false) : t.works = false := by
  cases h with
  | allot | register | post | mark | withdraw | cancelAll | stop | install => exact hs
  | observeStop | refused | fault | loseStream | wake | close | drop => rfl
  | write hphase | acknowledge hphase | absorb _ hphase | arrive _ hphase | deliver hphase =>
    exact absurd (works_of_running hphase) (by simp [hs])
  | answer hanswer => exact absurd (works_of_inHand hanswer.1) (by simp [hs])
  | reply hhand => exact absurd (works_of_inHand hhand) (by simp [hs])
  | ignore hphase => exact absurd hs (by rw [Session.works, hphase]; simp)

lemma filterMap_ticket?_message (texts : List String) :
    (texts.map Outbound.message).filterMap Outbound.ticket? = [] := by
  simp [List.filterMap_map, Function.comp_def, Outbound.ticket?]

/-- A ticket is taken with each mark that enters the queue. -/
lemma Moves.tickets (h : Moves s m t) :
    List.range t.nextTicket
      = List.range s.nextTicket ++ (s.puts m).filterMap Outbound.ticket? := by
  have htexts : (s.puts m = (s.adds m).map .message) → (s.puts m).filterMap Outbound.ticket? = [] :=
    fun h => h ▸ filterMap_ticket?_message _
  cases h with
  | mark => exact List.range_succ
  | _ =>
    rw [htexts rfl]
    exact (List.append_nil _).symm

end Session

namespace Exchange

variable {e f : Exchange} {st : Step} {x : Exchange × Step}
  {past early late : List (Exchange × Step)}

/-! ## Places in a run -/

/-- A run is a history of the exchange. -/
lemma runs_iff_history : Runs past e ↔ History step? .start past e := by
  constructor
  · intro h
    induction h with
    | start => exact .start
    | step _ next ih => exact ih.step next
  · intro h
    induction h with
    | start => exact .start
    | step _ next ih => exact ih.step next

/-- The run before one of its steps. -/
lemma Runs.before (h : Runs (early ++ x :: late) e) : Runs early x.1 ∧ ∃ f, Steps x.1 x.2 f := by
  obtain ⟨hearly, f, next, -⟩ := (runs_iff_history.1 h).before
  exact ⟨runs_iff_history.2 hearly, f, steps_of_step? next⟩

/-- What every step preserves holds from the state where it first holds. -/
lemma Runs.stays {P : Exchange → Prop} (hstep : ∀ {e st f}, Steps e st f → P e → P f)
    (h : Runs (early ++ x :: late) e) (hx : P x.1) : (∀ y ∈ late, P y.1) ∧ P e := by
  obtain ⟨-, f, next, hlate⟩ := (runs_iff_history.1 h).before
  exact hlate.throughout (hstep (steps_of_step? next) hx) fun hnext => hstep (steps_of_step? hnext)

/-! ## The loop and its marks -/

lemma Steps.works (h : Steps e st f) (he : e.session.works = false) : f.session.works = false := by
  cases h with
  | begin | notify | unheard => exact he
  | turn _ h =>
    cases h <;> exact he
  | session _ h => exact (Session.moves_of_move? h).works he

/-- **Once the loop has ended** it has ended for good. -/
lemma Runs.stays_ended (h : Runs (early ++ x :: late) e) (hx : x.1.session.works = false) :
    (∀ y ∈ late, y.1.session.works = false) ∧ e.session.works = false :=
  h.stays Steps.works hx

lemma Runs.worked (h : Runs past e) (he : e.session.works = true) :
    ∀ x ∈ past, x.1.session.works = true := by
  intro x hx
  obtain ⟨early, late, rfl⟩ := List.append_of_mem hx
  by_contra hended
  rw [Bool.not_eq_true] at hended
  exact absurd (h.stays_ended hended).2 (by simp [he])

lemma tickets_enters (e : Exchange) (h : st ≠ .session .mark) :
    (e.enters st).filterMap Outbound.ticket? = [] := by
  rw [enters_eq_sends h]
  cases e.sends st <;> rfl

lemma Steps.tickets (h : Steps e st f) : List.range f.session.nextTicket
    = List.range e.session.nextTicket ++ (e.enters st).filterMap Outbound.ticket? := by
  have quiet : st ≠ .session .mark → List.range e.session.nextTicket
      = List.range e.session.nextTicket ++ (e.enters st).filterMap Outbound.ticket? := by
    intro hst
    rw [tickets_enters e hst, List.append_nil]
  cases h with
  | begin | notify | unheard => exact quiet (by simp)
  | turn _ h =>
    cases h <;> exact quiet (by simp)
  | session hcallers h =>
    rw [← puts_eq_enters e hcallers]
    exact (Session.moves_of_move? h).tickets

lemma Steps.nextTicket_le (h : Steps e st f) : e.session.nextTicket ≤ f.session.nextTicket := by
  have hlength := congrArg List.length h.tickets
  rw [List.length_append, List.length_range, List.length_range] at hlength
  omega

/-- **The marks that entered the queue** have the tickets from zero, in order. -/
theorem Runs.tickets (h : Runs past e) :
    (entered past).filterMap Outbound.ticket? = List.range e.session.nextTicket := by
  induction h with
  | start => rfl
  | step _ next ih =>
    rw [entered_append, entered_singleton, List.filterMap_append, ih]
    exact (steps_of_step? next).tickets.symm

end Exchange

end ServerLink.Rpc
