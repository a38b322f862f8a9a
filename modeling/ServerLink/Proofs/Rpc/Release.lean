import Mathlib
import ServerLink.Proofs.History
import ServerLink.Proofs.Rpc.Callers

/-!
# Calls at the end of a session

When the loop ends it wakes all that wait, closes the stream and drops the queue, and callers may
take their turns in between.

**Left behind.**  A call that is registered after the waiting were woken and queued before the queue
is dropped has nobody left to wake it: no message is handed out any more, and the loop does not wake
the waiting a second time.  `LeftBehind past n` says so of a run, and **`Runs.registered_iff`** that
such calls are the only ones that are registered from then on.

**Released.**  **`Runs.released`**: once the loop has ended, every queued call that was not left
behind was woken or had no time left before, and those left behind wait out their time.
-/

namespace ServerLink.Rpc

namespace Session

/-- Whether the loop has woken the waiting. -/
def hasWoken (s : Session) : Bool :=
  match s.phase with
  | .closing | .dropping | .ended => true
  | _ => false

variable {s t : Session} {m : Move}

lemma inHand?_of_hasWoken (hs : s.hasWoken = true) : s.inHand? = none := by
  rw [hasWoken] at hs
  rw [inHand?]
  split
  · simp_all
  · rfl

lemma hasWoken_of_inHand {i : Inbound} (h : s.inHand? = some i) : s.hasWoken = false := by
  by_contra hs
  rw [Bool.not_eq_false] at hs
  exact absurd h (by simp [inHand?_of_hasWoken hs])

/-- The loop wakes the waiting once. -/
lemma Moves.hasWoken (h : Moves s m t) :
    t.hasWoken = true ↔ s.hasWoken = true ∨ m = .wake := by
  have same : m ≠ .wake → (s.hasWoken = true ↔ s.hasWoken = true ∨ m = .wake) := by
    intro hm
    simp [hm]
  cases h with
  | allot | register | post | mark | withdraw | cancelAll | stop | install => exact same (by simp)
  | observeStop hphase | write hphase | refused _ hphase | acknowledge hphase | fault _ hphase
  | absorb _ hphase | arrive _ hphase | deliver hphase | loseStream hphase | ignore hphase
  | wake hphase | close hphase | drop hphase => simp [Session.hasWoken, hphase]
  | answer hanswer =>
    simp only [hasWoken_of_inHand hanswer.1, reduceCtorEq, or_self, iff_false]
    exact Bool.false_ne_true
  | reply hhand =>
    simp only [hasWoken_of_inHand hhand, reduceCtorEq, or_self, iff_false]
    exact Bool.false_ne_true

/-- From then on only someone who wakes them all wakes a call. -/
lemma signal?_of_hasWoken (hs : s.hasWoken = true) (h : Moves s m t) (hm : m ≠ .cancelAll)
    (id : Nat) : s.signal? id m = none := by
  cases h with
  | cancelAll => exact absurd rfl hm
  | wake hphase => rw [Session.hasWoken, hphase] at hs; exact absurd hs (by simp)
  | answer hanswer => exact absurd hanswer.1 (by simp [inHand?_of_hasWoken hs])
  | reply hhand => exact absurd hhand (by simp [inHand?_of_hasWoken hs])
  | ignore _ hanswer => exact signal?_dispatch_none hanswer id
  | _ => rfl

end Session

namespace Call

variable {c : Call} {s : Session}

lemma Agrees.not_numbered (h : c.Agrees s) (hin : c.id ∈ s.pending) : c.stage ≠ .numbered := by
  intro hstage
  rw [Agrees, hstage] at h
  exact h.1 hin

/-- A call that has begun to wait and was not woken is registered until it is given up. -/
lemma Agrees.registered_of_unwoken (h : c.Agrees s) (hwake : s.wake? c.id = none)
    (hstage : c.stage ≠ .numbered) (htime : c.stage ≠ .done .timedOut)
    (hsent : c.stage ≠ .done .unsent) : c.id ∈ s.pending := by
  unfold Agrees at h
  split at h
  · exact absurd ‹_› hstage
  · exact absurd (hwake.symm.trans h.2) (by simp)
  · exact absurd ‹_› htime
  · exact absurd ‹_› hsent
  · exact h.2 hwake

end Call

namespace Exchange

/-- A call was registered after the loop had woken the waiting, and they were not woken since. -/
def LeftBehind (past : List (Exchange × Step)) (n : Nat) : Prop :=
  ∃ early x late, past = early ++ x :: late ∧ x.2 = .turn n .register
    ∧ x.1.session.hasWoken = true ∧ ∀ y ∈ late, y.2 ≠ .session .cancelAll

/-- What becomes of the queued calls of a run after which the loop has ended. -/
structure Released (past : List (Exchange × Step)) (e : Exchange) : Prop where
  /-- A queued call is registered just if it was left behind and its caller has not given it up. -/
  registered : ∀ n c, e.calls[n]? = some c → c.stage.isQueued = true →
    (c.id ∈ e.session.pending ↔ LeftBehind past n ∧ c.stage ≠ .done .timedOut)
  /-- Every other one was woken, or had no time left. -/
  woken : ∀ n c, e.calls[n]? = some c → c.stage.isQueued = true → ¬ LeftBehind past n →
    e.session.wake? c.id ≠ none ∨ c.stage = .done .timedOut
  /-- If its caller still waits, it completes with what it was woken with, and never waits out its
  time. -/
  completes : ∀ n c, e.calls[n]? = some c → c.stage = .waiting → ¬ LeftBehind past n →
    (∃ w, e.session.wake? c.id = some w ∧ e.step? (.turn n .finish)
      = some ⟨e.session, e.calls.set n (c.enter (.done (.woken w)))⟩)
    ∧ e.step? (.turn n .expire) = none
  /-- The caller of a call that was left behind can do nothing but wait out its time. -/
  waits : ∀ n c, e.calls[n]? = some c → c.stage = .waiting → LeftBehind past n →
    e.step? (.turn n .finish) = none
    ∧ e.step? (.turn n .expire) = some ⟨e.session, e.calls.set n (c.enter .late)⟩
  /-- And so it stays, whatever happens, as long as nobody wakes all that wait. -/
  stays : ∀ n more f, LeftBehind past n → Runs (past ++ more) f →
    f.calls.length < Decimal.limit64 → (∀ y ∈ more, y.2 ≠ .session .cancelAll) →
    ∃ c, f.calls[n]? = some c ∧ ∀ w, c.stage ≠ .done (.woken w)

variable {past : List (Exchange × Step)} {e f : Exchange} {st : Step} {n : Nat} {c : Call}

lemma leftBehind_iff : LeftBehind past n ↔
    Since (fun x => x.2 = .turn n .register ∧ x.1.session.hasWoken = true)
      (fun x => x.2 ≠ .session .cancelAll) past := by
  simp only [LeftBehind, Since, and_assoc]

lemma leftBehind_append : LeftBehind (past ++ [(e, st)]) n ↔
    LeftBehind past n ∧ st ≠ .session .cancelAll
    ∨ st = .turn n .register ∧ e.session.hasWoken = true := by
  rw [leftBehind_iff, since_append, ← leftBehind_iff, or_comm]

lemma LeftBehind.append {more : List (Exchange × Step)} (h : LeftBehind past n)
    (hmore : ∀ y ∈ more, y.2 ≠ .session .cancelAll) : LeftBehind (past ++ more) n := by
  obtain ⟨early, x, late, rfl, hx, hwoken, hlate⟩ := h
  refine ⟨early, x, late ++ more, by simp, hx, hwoken, fun y hy => ?_⟩
  exact (List.mem_append.1 hy).elim (hlate y) (hmore y)

/-! ## Steps -/

lemma Steps.hasWoken (h : Steps e st f) :
    f.session.hasWoken = true ↔ e.session.hasWoken = true ∨ st = .session .wake := by
  cases h with
  | begin | notify | unheard => simp [Session.hasWoken]
  | turn _ h => cases h <;> simp [Session.hasWoken]
  | session _ h => simp [(Session.moves_of_move? h).hasWoken]

lemma Steps.length_calls_le (h : Steps e st f) : e.calls.length ≤ f.calls.length := by
  cases h <;> simp

/-- What is known of a call that was left behind: it was registered and nothing has woken it. -/
def Unheard (e : Exchange) (n : Nat) : Prop :=
  e.session.hasWoken = true
  ∧ ∃ c, e.calls[n]? = some c ∧ c.stage ≠ .numbered ∧ e.session.wake? c.id = none

/-- Only someone who wakes all that wait wakes a call that was left behind. -/
lemma Steps.stays_unheard (h : Steps e st f) (hst : st ≠ .session .cancelAll) (he : Unheard e n) :
    Unheard f n := by
  have hwoken := h.hasWoken.2 (.inl he.1)
  obtain ⟨hbefore, c, hc, hstage, hwake⟩ := he
  refine ⟨hwoken, ?_⟩
  cases h with
  | begin =>
    refine ⟨c, ?_, hstage, hwake⟩
    rw [List.getElem?_append_left (List.getElem?_eq_some_iff.1 hc).1, hc]
  | notify | unheard => exact ⟨c, hc, hstage, hwake⟩
  | @turn m t c' d s hc' ht =>
    by_cases heq : m = n
    · subst heq
      obtain rfl : c' = c := Option.some.inj (hc'.symm.trans hc)
      refine ⟨d, List.getElem?_set_self (List.getElem?_eq_some_iff.1 hc).1, ?_, ?_⟩
      · cases ht <;> simp [Call.enter]
      · rw [ht.id_eq, ht.wake?_eq, hwake]
    · exact ⟨c, by rw [List.getElem?_set_ne heq, hc], hstage, by rw [ht.wake?_eq, hwake]⟩
  | session hcallers hmove =>
    have hsignal := Session.signal?_of_hasWoken hbefore (Session.moves_of_move? hmove)
      (fun hm => hst (by rw [hm])) c.id
    exact ⟨c, hc, hstage, by
      rw [(Session.move?_signalled hmove hcallers).wake, hwake, hsignal]; rfl⟩

/-- A call that is registered after the loop has woken the waiting registers now, or was registered
after that and is not woken now. -/
lemma Sound.registered (hsound : Sound past e) (h : Steps e st f)
    (hwoken : f.session.hasWoken = true) (hc : f.calls[n]? = some c) (hstage : c.stage ≠ .numbered)
    (hin : c.id ∈ f.session.pending) :
    e.session.hasWoken = true ∧ (st = .turn n .register
      ∨ st ≠ .session .cancelAll
        ∧ ∃ b, e.calls[n]? = some b ∧ b.id ∈ e.session.pending) := by
  have hbefore := h.hasWoken.1 hwoken
  cases h with
  | begin =>
    refine ⟨hwoken, .inr ⟨by simp, c, ?_, hin⟩⟩
    by_cases hlt : n < e.calls.length
    · rwa [List.getElem?_append_left hlt] at hc
    · rw [List.getElem?_append_right (not_lt.1 hlt)] at hc
      rw [List.mem_singleton.1 (List.mem_of_getElem? hc)] at hstage
      exact absurd rfl hstage
  | notify | unheard => exact ⟨hwoken, .inr ⟨by simp, c, hc, hin⟩⟩
  | @turn m t b d s hb ht =>
    refine ⟨hbefore.resolve_right (by simp), ?_⟩
    by_cases heq : m = n
    · subst heq
      rw [List.getElem?_set_self (List.getElem?_eq_some_iff.1 hb).1, Option.some.injEq] at hc
      subst hc
      cases ht with
      | register => exact .inl rfl
      | spoil | post | refuse | finish | expire => exact .inr ⟨by simp, b, hb, hin⟩
      | unsend | giveUp => exact .inr ⟨by simp, b, hb, List.mem_of_mem_filter hin⟩
    · rw [List.getElem?_set_ne heq] at hc
      have hid := hsound.id_eq hb
      have hid' := hsound.id_eq hc
      exact .inr ⟨by simp, c, hc, (ht.others (by omega)).1 hin⟩
  | @session m s hcallers hmove =>
    -- were all that wait woken now, the call would no longer be registered
    obtain ⟨hin, hsignal⟩ := ((Session.move?_signalled hmove hcallers).pending c.id).1 hin
    have hnot : m ≠ .cancelAll ∧ m ≠ .wake := by
      constructor <;> rintro rfl <;> simp [Session.signal?, hin] at hsignal
    exact ⟨hbefore.resolve_right (by simp [hnot]), .inr ⟨by simp [hnot], c, hc, hin⟩⟩

/-! ## Runs -/

lemma Runs.unheard (h : Runs past e) (hfew : e.calls.length < Decimal.limit64)
    (hleft : LeftBehind past n) : Unheard e n := by
  induction h with
  | start =>
    obtain ⟨early, x, late, hpast, -⟩ := hleft
    exact absurd hpast (by simp)
  | @step past e f st run next ih =>
    have hsteps := steps_of_step? next
    have hfew' := hsteps.length_calls_le.trans_lt hfew
    rcases leftBehind_append.1 hleft with ⟨hleft, hst⟩ | ⟨rfl, hwoken⟩
    · exact hsteps.stays_unheard hst (ih hfew' hleft)
    · cases hsteps with
      | @turn _ _ b d s hb ht =>
        have hagrees := (run.sound hfew').agrees b (List.mem_of_getElem? hb)
        cases ht with
        | register hstage =>
          rw [Call.Agrees, hstage] at hagrees
          exact ⟨hwoken, b.enter .registered,
            List.getElem?_set_self (List.getElem?_eq_some_iff.1 hb).1, by simp [Call.enter],
            hagrees.2⟩

lemma Runs.leftBehind (h : Runs past e) (hfew : e.calls.length < Decimal.limit64)
    (hwoken : e.session.hasWoken = true) (hc : e.calls[n]? = some c)
    (hin : c.id ∈ e.session.pending) : LeftBehind past n := by
  induction h generalizing c with
  | start => exact absurd hwoken Bool.false_ne_true
  | @step past e f st run next ih =>
    have hsteps := steps_of_step? next
    have hfew' := hsteps.length_calls_le.trans_lt hfew
    have hstage :=
      (((run.step next).sound hfew).agrees c (List.mem_of_getElem? hc)).not_numbered hin
    obtain ⟨hbefore, rfl | ⟨hst, b, hb, hin'⟩⟩ :=
      (run.sound hfew').registered hsteps hwoken hc hstage hin
    · exact leftBehind_append.2 (.inr ⟨rfl, hbefore⟩)
    · exact leftBehind_append.2 (.inl ⟨ih hfew' hbefore hb hin', hst⟩)

/-- **Once the waiting were woken** the registered calls are those left behind, until they are given
up. -/
theorem Runs.registered_iff (h : Runs past e) (hfew : e.calls.length < Decimal.limit64)
    (hwoken : e.session.hasWoken = true) (hc : e.calls[n]? = some c) :
    c.id ∈ e.session.pending ↔
      LeftBehind past n ∧ c.stage ≠ .done .timedOut ∧ c.stage ≠ .done .unsent := by
  have hagrees := (h.sound hfew).agrees c (List.mem_of_getElem? hc)
  constructor
  · intro hin
    refine ⟨h.leftBehind hfew hwoken hc hin, fun hstage => ?_, fun hstage => ?_⟩
    · exact hagrees.gone (.inr (.inl hstage)) hin
    · exact hagrees.gone (.inr (.inr hstage)) hin
  · rintro ⟨hleft, htime, hsent⟩
    obtain ⟨-, b, hb, hstage, hwake⟩ := h.unheard hfew hleft
    obtain rfl : b = c := Option.some.inj (hb.symm.trans hc)
    exact hagrees.registered_of_unwoken hwake hstage htime hsent

/-! ## The end -/

lemma step?_finish (hc : e.calls[n]? = some c) (hstage : c.stage = .waiting) :
    e.step? (.turn n .finish) = (e.session.wake? c.id).map fun w =>
      ⟨e.session, e.calls.set n (c.enter (.done (.woken w)))⟩ := by
  simp only [step?, hc, Option.bind_some, Call.turn?, hstage, Option.map_map]
  rfl

lemma step?_expire (hc : e.calls[n]? = some c) (hstage : c.stage = .waiting) :
    e.step? (.turn n .expire) = if (e.session.wake? c.id).isNone then
      some ⟨e.session, e.calls.set n (c.enter .late)⟩ else none := by
  simp only [step?, hc, Option.bind_some, Call.turn?, hstage]
  split <;> rfl

/-- **Once the loop has ended** the queued calls were woken or had no time left, all but those left
behind, and those wait out their time. -/
theorem Runs.released (h : Runs past e) (hfew : e.calls.length < Decimal.limit64)
    (hended : e.session.phase = .ended) : Released past e := by
  have hwoken : e.session.hasWoken = true := by rw [Session.hasWoken, hended]
  have hqueued : ∀ {c : Call}, c.stage.isQueued = true → c.stage ≠ .done .unsent := by
    intro c hc hstage
    rw [hstage] at hc
    exact absurd hc (by simp [Stage.isQueued])
  have hout : ∀ n c, e.calls[n]? = some c → c.stage.isQueued = true → ¬ LeftBehind past n →
      e.session.wake? c.id ≠ none ∨ c.stage = .done .timedOut := by
    intro n c hc hstage hleft
    -- neither woken nor timed out, the call is registered, and after the clear only latecomers are
    by_contra hno
    rw [not_or, not_not] at hno
    have hagrees := (h.sound hfew).agrees c (List.mem_of_getElem? hc)
    exact hleft (h.leftBehind hfew hwoken hc (hagrees.registered hstage hno.1 hno.2))
  constructor
  case registered =>
    intro n c hc hstage
    rw [h.registered_iff hfew hwoken hc]
    simp [hqueued hstage]
  case woken => exact hout
  case completes =>
    intro n c hc hstage hleft
    have hwake := (hout n c hc (by rw [hstage]; rfl) hleft).resolve_right (by simp [hstage])
    obtain ⟨w, hw⟩ := Option.ne_none_iff_exists'.1 hwake
    rw [step?_finish hc hstage, step?_expire hc hstage, hw]
    exact ⟨⟨w, rfl, rfl⟩, rfl⟩
  case waits =>
    intro n c hc hstage hleft
    obtain ⟨-, b, hb, -, hwake⟩ := h.unheard hfew hleft
    obtain rfl : b = c := Option.some.inj (hb.symm.trans hc)
    rw [step?_finish hc hstage, step?_expire hc hstage, hwake]
    exact ⟨rfl, rfl⟩
  case stays =>
    intro n more f hleft hmore hfew' hquiet
    obtain ⟨-, c, hc, -, hwake⟩ := hmore.unheard hfew' (hleft.append hquiet)
    refine ⟨c, hc, fun w hstage => ?_⟩
    have hagrees := (hmore.sound hfew').agrees c (List.mem_of_getElem? hc)
    rw [Call.Agrees, hstage] at hagrees
    exact absurd (hwake.symm.trans hagrees.2) (by simp)

/-! ## A latecomer

The stream ends under a call that waits.  The loop wakes it, and before the queue is dropped another
call is registered and queued. -/

/-- What comes of it. -/
def latecomer : Exchange :=
  ⟨{ Session.start with
      phase := .ended, nextId := 3, pending := [2], woken := [(1, .cancelled)]
      written := [Session.requestText 1 "hover" none] },
    [⟨1, "hover", .ok none, .waiting⟩, ⟨2, "definition", .ok none, .waiting⟩]⟩

lemma runs_latecomer : ∃ past, Runs past latecomer := by
  have h1 := Runs.step .start (rfl : start.step? (.begin "hover" (.ok none)) = some _)
  have h2 := Runs.step h1 (rfl : Exchange.step? _ (.turn 0 .register) = some _)
  have h3 := Runs.step h2 (rfl : Exchange.step? _ (.turn 0 .post) = some _)
  have h4 := Runs.step h3 (rfl : Exchange.step? _ (.session (.write none)) = some _)
  have h5 := Runs.step h4 (rfl : Exchange.step? _ (.session .loseStream) = some _)
  have h6 := Runs.step h5 (rfl : Exchange.step? _ (.session .wake) = some _)
  have h7 := Runs.step h6 (rfl : Exchange.step? _ (.begin "definition" (.ok none)) = some _)
  have h8 := Runs.step h7 (rfl : Exchange.step? _ (.turn 1 .register) = some _)
  have h9 := Runs.step h8 (rfl : Exchange.step? _ (.session .close) = some _)
  have h10 := Runs.step h9 (rfl : Exchange.step? _ (.turn 1 .post) = some _)
  have h11 := Runs.step h10 (rfl : Exchange.step? _ (.session .drop) = some latecomer)
  exact ⟨_, h11⟩

/-- The first call is released, and the second is left behind. -/
theorem released_latecomer : ∃ past, Runs past latecomer
    ∧ latecomer.calls.length < Decimal.limit64 ∧ latecomer.session.phase = .ended
    ∧ Released past latecomer ∧ ¬ LeftBehind past 0 ∧ LeftBehind past 1 := by
  obtain ⟨past, h⟩ := runs_latecomer
  have hfew : latecomer.calls.length < Decimal.limit64 := by decide
  have hreleased := h.released hfew rfl
  have hfirst := hreleased.registered 0 _ rfl rfl
  have hsecond := hreleased.registered 1 _ rfl rfl
  refine ⟨past, h, hfew, rfl, hreleased, fun hleft => ?_, (hsecond.1 (by simp [latecomer])).1⟩
  exact absurd (hfirst.2 ⟨hleft, by simp⟩) (by simp [latecomer])

/-- **Some queued calls are not released**: the loop has ended, and the second call is registered
and waits out its time. -/
theorem latecomer_left_behind : ¬ ∀ past e, Runs past e → e.calls.length < Decimal.limit64 →
    e.session.phase = .ended → ∀ c ∈ e.calls, c.stage.isQueued = true →
    c.id ∉ e.session.pending := by
  intro hall
  obtain ⟨past, h⟩ := runs_latecomer
  refine hall past latecomer h (by decide) rfl ⟨2, "definition", .ok none, .waiting⟩ ?_ rfl ?_
  · exact List.mem_cons_of_mem _ (List.mem_singleton_self _)
  · exact List.mem_singleton_self 2

end Exchange

end ServerLink.Rpc
