import Mathlib
import ServerLink.Proofs.Rpc.Correlation
import ServerLink.Proofs.Rpc.Release

/-!
# What stays registered

A call registers its id, then writes its parameters, queues its message and waits.  It may end at
any of these points, and whoever wakes it takes its id out as well.

**One call.**  `Stage.holds` says at which stages a call has put its id in and not taken it out, and
`Call.Agrees.mem_pending_iff` that it is registered then until it is woken.

**One turn.**  A turn of a caller moves its own id only (`Call.Takes.pending_others`), and no id is
ever put in twice (`Steps.nodup`).

**Runs.**  **`Runs.entries`**: a call that has returned is registered no more, with one exception:
one whose parameters could not be written has returned between the two and left its id behind, until
it happens to be answered or all that wait are woken.
-/

namespace ServerLink.Rpc

/-- A call at this stage has registered its id and not withdrawn it. -/
def Stage.holds : Stage → Bool
  | .registered | .refused | .waiting | .late | .done (.unwritable _) => true
  | _ => false

section Turn

variable {c d : Call} {s s' : Session} {t : Turn}

/-- **A call is registered** from its registration on until it is woken or withdraws. -/
lemma Call.Agrees.mem_pending_iff (h : c.Agrees s) :
    c.id ∈ s.pending ↔ c.stage.holds = true ∧ s.wake? c.id = none := by
  unfold Agrees at h
  cases hstage : c.stage with
  | numbered =>
    rw [hstage] at h
    simp [h.1, Stage.holds]
  | done ending =>
    rw [hstage] at h
    cases ending with
    | woken w => simp [h.1, Stage.holds]
    | unwritable text => simpa [Stage.holds] using h
    | timedOut | unsent => simpa [Stage.holds] using h
  | _ =>
    rw [hstage] at h
    simpa [Stage.holds] using h

/-- **A turn of a caller leaves the ids of the others where they are.** -/
lemma Call.Takes.pending_others (h : c.Takes s t s' d) :
    s'.pending.filter (· != c.id) = s.pending.filter (· != c.id) := by
  cases h with
  | register => simp
  | unsend | giveUp => simp
  | _ => rfl

lemma Call.Takes.woken_eq (h : c.Takes s t s' d) : s'.woken = s.woken := by
  cases h <;> rfl

/-- An id that is put in was not in. -/
lemma Call.Takes.nodup (h : c.Takes s t s' d) (hagrees : c.Agrees s) (hs : s.pending.Nodup) :
    s'.pending.Nodup := by
  cases h with
  | register hstage =>
    have hout : c.id ∉ s.pending := by
      rw [hagrees.mem_pending_iff, hstage]
      simp [Stage.holds]
    exact hs.append (List.nodup_singleton _) (List.disjoint_singleton.2 hout)
  | unsend | giveUp => exact hs.filter _
  | _ => exact hs

/-- Whoever is no caller takes ids out only. -/
lemma Session.Moves.pending_sublist {m : Move} (h : Session.Moves s m s')
    (hcallers : m.isCallers = false) : s'.pending.Sublist s.pending := by
  cases h with
  | allot | register | post | withdraw => cases hcallers
  | answer => exact List.filter_sublist
  | cancelAll | wake => exact List.nil_sublist _
  | _ => exact List.Sublist.refl _

end Turn

namespace Exchange

/-- What is registered after a run. -/
structure Entries (past : List (Exchange × Step)) (e : Exchange) : Prop where
  /-- No id is registered twice. -/
  nodup : e.session.pending.Nodup
  /-- What is registered are the ids of calls that have registered, not withdrawn and not been
  woken. -/
  held : ∀ id, id ∈ e.session.pending ↔
    ∃ c ∈ e.calls, c.id = id ∧ c.stage.holds = true ∧ e.session.wake? id = none
  /-- A call that has returned is registered just if its parameters could not be written, and since
  then it was not answered and nobody woke all that wait. -/
  returned : ∀ c ∈ e.calls, ∀ ending, c.stage = .done ending →
    (c.id ∈ e.session.pending ↔ (∃ text, ending = .unwritable text)
      ∧ ∀ x ∈ past, (∀ r, ¬ Accepts x c.id r) ∧ ¬ Cancels x c.id)
  /-- A turn of a caller, and so the one by which it returns, leaves alone what is registered for
  others, what they were woken with, and how far they are. -/
  others : ∀ n t f c, e.step? (.turn n t) = some f → e.calls[n]? = some c →
    f.session.pending.filter (· != c.id) = e.session.pending.filter (· != c.id)
    ∧ f.session.woken = e.session.woken ∧ ∀ k, k ≠ n → f.calls[k]? = e.calls[k]?
  /-- With no call under way, and none whose parameters could not be written, nothing is
  registered. -/
  empty : (∀ c ∈ e.calls, ∃ ending, c.stage = .done ending ∧ ∀ text, ending ≠ .unwritable text) →
    e.session.pending = []

variable {past : List (Exchange × Step)} {e f : Exchange} {st : Step}

/-! ## Runs -/

lemma Steps.nodup (hsound : Sound past e) (h : Steps e st f) (he : e.session.pending.Nodup) :
    f.session.pending.Nodup := by
  cases h with
  | begin | notify | unheard => exact he
  | turn hc ht => exact ht.nodup (hsound.agrees _ (List.mem_of_getElem? hc)) he
  | session hcallers hmove =>
    exact he.sublist ((Session.moves_of_move? hmove).pending_sublist hcallers)

lemma Runs.nodup_pending (h : Runs past e) (hfew : e.calls.length < Decimal.limit64) :
    e.session.pending.Nodup := by
  induction h with
  | start => exact List.nodup_nil
  | step run next ih =>
    have hsteps := steps_of_step? next
    have hfew' := hsteps.length_calls_le.trans_lt hfew
    exact hsteps.nodup (run.sound hfew') (ih hfew')

lemma signal?_of_cancels {x : Exchange × Step} {id : Nat} (h : Cancels x id) :
    x.1.signal? id x.2 = some .cancelled := by
  obtain ⟨hst | hst, hin⟩ := h <;> rw [hst] <;> exact if_pos hin

/-- A call was not woken just if it was not answered and nobody woke all that wait. -/
lemma Sound.wake?_eq_none_iff (h : Sound past e) (id : Nat) : e.session.wake? id = none ↔
    ∀ x ∈ past, (∀ r, ¬ Accepts x id r) ∧ ¬ Cancels x id := by
  rw [h.wakes]
  constructor
  · intro hnone x hx
    rw [firstSignal?, List.findSome?_eq_none_iff] at hnone
    constructor
    · intro r hr
      cases (signal?_of_accepts hr).symm.trans (hnone x hx)
    · intro hcancels
      cases (signal?_of_cancels hcancels).symm.trans (hnone x hx)
  · intro hnone
    exact firstSignal?_eq_none (fun x hx => (hnone x hx).1) fun x hx => (hnone x hx).2

/-- **A call that has returned is registered no more**, but for one whose parameters could not be
written, as long as fewer calls were begun than there are ids. -/
theorem Runs.entries (h : Runs past e) (hfew : e.calls.length < Decimal.limit64) :
    Entries past e := by
  have hsound := h.sound hfew
  -- the map is known from the calls alone: which stage each is in, and whether it was woken
  have hheld : ∀ id, id ∈ e.session.pending ↔
      ∃ c ∈ e.calls, c.id = id ∧ c.stage.holds = true ∧ e.session.wake? id = none := by
    intro id
    constructor
    · intro hin
      obtain ⟨c, hc, rfl⟩ := List.mem_map.1 (hsound.known id (.inl hin))
      exact ⟨c, hc, rfl, (hsound.agrees c hc).mem_pending_iff.1 hin⟩
    · rintro ⟨c, hc, rfl, hwaits⟩
      exact (hsound.agrees c hc).mem_pending_iff.2 hwaits
  constructor
  case nodup => exact h.nodup_pending hfew
  case held => exact hheld
  case returned =>
    intro c hc ending hstage
    rw [(hsound.agrees c hc).mem_pending_iff, hsound.wake?_eq_none_iff, hstage]
    refine and_congr_left fun _ => ?_
    cases ending <;> simp [Stage.holds]
  case others =>
    intro n t f c hstep hc
    cases steps_of_step? hstep with
    | turn hc' ht =>
      cases hc'.symm.trans hc
      exact ⟨ht.pending_others, ht.woken_eq, fun k hk => List.getElem?_set_ne (Ne.symm hk)⟩
  case empty =>
    intro hdone
    refine List.eq_nil_iff_forall_not_mem.2 fun id hin => ?_
    obtain ⟨c, hc, rfl, hholds, -⟩ := (hheld id).1 hin
    obtain ⟨ending, hstage, hwritable⟩ := hdone c hc
    rw [hstage] at hholds
    cases ending with
    | unwritable text => exact hwritable text rfl
    | _ => cases hholds

/-! ## Parameters that cannot be written

A call is begun with a path that is no text, and a second one with none.  The first returns at once,
and the second when its time is up. -/

/-- What comes of it. -/
def unwritten : Exchange :=
  ⟨{ Session.start with
      nextId := 3, pending := [1], written := [Session.requestText 2 "hover" none] },
    [⟨1, "open", .error "path contains invalid UTF-8 characters",
      .done (.unwritable "path contains invalid UTF-8 characters")⟩,
      ⟨2, "hover", .ok none, .done .timedOut⟩]⟩

lemma runs_unwritten : ∃ past, Runs past unwritten := by
  have h1 := Runs.step .start (rfl : start.step?
    (.begin "open" (.error "path contains invalid UTF-8 characters")) = some _)
  have h2 := Runs.step h1 (rfl : Exchange.step? _ (.begin "hover" (.ok none)) = some _)
  have h3 := Runs.step h2 (rfl : Exchange.step? _ (.turn 0 .register) = some _)
  have h4 := Runs.step h3 (rfl : Exchange.step? _ (.turn 1 .register) = some _)
  have h5 := Runs.step h4 (rfl : Exchange.step? _ (.turn 0 .post) = some _)
  have h6 := Runs.step h5 (rfl : Exchange.step? _ (.turn 1 .post) = some _)
  have h7 := Runs.step h6 (rfl : Exchange.step? _ (.session (.write none)) = some _)
  have h8 := Runs.step h7 (rfl : Exchange.step? _ (.turn 1 .expire) = some _)
  have h9 := Runs.step h8 (rfl : Exchange.step? _ (.turn 1 .withdraw) = some unwritten)
  exact ⟨_, h9⟩

theorem entries_unwritten : ∃ past, Runs past unwritten
    ∧ unwritten.calls.length < Decimal.limit64 ∧ Entries past unwritten := by
  obtain ⟨past, h⟩ := runs_unwritten
  have hfew : unwritten.calls.length < Decimal.limit64 := by decide
  exact ⟨past, h, hfew, h.entries hfew⟩

/-- **Something may stay registered**: no call is under way, and the first one left its id
behind. -/
theorem unwritten_left_behind : ¬ ∀ past e, Runs past e → e.calls.length < Decimal.limit64 →
    (∀ c ∈ e.calls, ∃ ending, c.stage = .done ending) → e.session.pending = [] := by
  intro hall
  obtain ⟨past, h⟩ := runs_unwritten
  have hnil := hall past unwritten h (by decide) (by simp [unwritten])
  cases hnil

end Exchange

end ServerLink.Rpc
