import Mathlib
import ServerLink.Proofs.Connection.Life
import ServerLink.Proofs.Process.Ends

/-!
# How a connection stands

Any number of starts and stops race on one connection, each of them at any stage, while the server
may end at any time.

**The invariant.**  `Life.Sound` says of each call how the connection stands while it is at its
stage, and how it stands while nobody holds the lock.  A call that holds it is the only one
(`Sound.alone`), so a move is one of three: the holder's, the outside's, or that of a call aside;
and each kind keeps the invariant by one lemma (`Sound.advance`, `Sound.outside`, `Sound.aside`).

**What follows.**  `Sound.phase_step`, `asked_step` and `Sound.over_step`: the phase moves forward
only, once a stop has asked for the end nothing is launched, and what is over stays over.
-/

namespace ServerLink.Connection

open Process

/-! ## Where a call stands -/

/-- The start holds the lock. -/
def StartStage.isInside : StartStage → Bool
  | .waiting | .done _ => false
  | _ => true

/-- The stop holds the lock. -/
def StopStage.isInside : StopStage → Bool
  | .called | .waiting | .done _ => false
  | _ => true

/-- The call holds the lock. -/
def Call.holds : Call → Bool
  | .start s => s.isInside
  | .stop s => s.isInside
  | .document _ => false

/-- A start that succeeded. -/
def Call.succeeded : Call := .start (.done (.ok ()))

namespace Life

variable {l l' : Life} {n : Nat} {m : Move}

/-- The connection has launched nothing. -/
def Untouched (l : Life) : Prop :=
  l.launches = 0 ∧ l.process = .new ∧ l.running = false

/-- The connection is over and done with. -/
def Over (l : Life) : Prop :=
  l.phase = .stopped ∧ l.holder = none ∧ l.launches ≤ 1 ∧ l.running = false
    ∧ l.process.isRunning = false

/-- How a connection stands while a start is at its stage. -/
def FitsStart (l : Life) : StartStage → Prop
  | .waiting => True
  | .entered => l.Untouched
  | .spawned _ | .answering _ | .equipped _ | .initializing _ | .launched =>
    l.launches = 1 ∧ l.process.Tracks ∧ l.running = false
  | .discarding _ => l.launches = 1 ∧ l.process.Ended ∧ l.running = false
  | .marked | .checked _ => l.launches = 1
  | .done (.ok _) => l.phase ≠ .idle
  | .done (.error e) => l.phase ≠ .idle ∧ (e = .alreadyStarted ∨ e = .stopped ∨ l.process.Ended)

/-- How a connection stands while a stop is at its stage. -/
def FitsStop (l : Life) : StopStage → Prop
  | .called => True
  | .waiting => l.cancelled = true
  | .done _ => l.cancelled = true ∧ l.Over
  | _ => l.cancelled = true ∧ l.launches ≤ 1 ∧ l.running = false

/-- How a connection stands while a call is at its stage. -/
def Fits (l : Life) (n : Nat) : Call → Prop
  | .start s => l.FitsStart s ∧ (s.isInside = true → l.phase = .idle ∧ l.holder = some n)
  | .stop s => l.FitsStop s ∧ (s.isInside = true → l.phase = .stopped ∧ l.holder = some n)
  | .document _ => True

/-- How a connection stands while nobody holds the lock. -/
structure FitsFree (l : Life) : Prop where
  idle : l.phase = .idle → l.Untouched
  running : l.phase = .running → l.launches = 1
  stopped : l.phase = .stopped → l.Over

/-- The invariant of a connection. -/
structure Sound (l : Life) : Prop where
  fits : ∀ n call, l.calls[n]? = some call → l.Fits n call
  held : ∀ n, l.holder = some n → ∃ call, l.calls[n]? = some call ∧ call.holds = true
  free : l.holder = none → l.FitsFree
  once : ∀ n k : Nat, l.calls[n]? = some Call.succeeded → l.calls[k]? = some Call.succeeded → n = k

/-- A call that holds the lock is the one that the lock names. -/
lemma Sound.alone (h : l.Sound) {call : Call} (hc : l.calls[n]? = some call)
    (hholds : call.holds = true) : l.holder = some n := by
  have hfits := h.fits n call hc
  cases call with
  | start s => exact (hfits.2 hholds).2
  | stop s => exact (hfits.2 hholds).2
  | document => exact absurd hholds (by simp [Call.holds])

/-! ## The three kinds of moves -/

/-- What calls that do not hold the lock see of a move: nothing is taken back. -/
structure Carries (l l' : Life) : Prop where
  phase : l.phase ≠ .idle → l'.phase ≠ .idle
  cancelled : l.cancelled = true → l'.cancelled = true
  ended : l.phase ≠ .idle → l.process.Ended → l'.process.Ended
  closed : l.Over → l'.Over

lemma Fits.carried {call : Call} (h : l.Fits n call) (hcarries : l.Carries l')
    (hholds : call.holds = false) : l'.Fits n call := by
  cases call with
  | start s =>
    refine ⟨?_, fun hs => absurd hholds (by simp [Call.holds, hs])⟩
    cases s with
    | waiting => trivial
    | done result =>
      cases result with
      | ok => exact hcarries.phase h.1
      | error e => exact ⟨hcarries.phase h.1.1, h.1.2.imp_right (.imp_right (hcarries.ended h.1.1))⟩
    | _ => exact absurd hholds (by simp [Call.holds, StartStage.isInside])
  | stop s =>
    refine ⟨?_, fun hs => absurd hholds (by simp [Call.holds, hs])⟩
    cases s with
    | called => trivial
    | waiting => exact hcarries.cancelled h.1
    | done => exact ⟨hcarries.cancelled h.1.1, hcarries.closed h.1.2⟩
    | _ => exact absurd hholds (by simp [Call.holds, StopStage.isInside])
  | document => trivial

/-- **A move of the call that holds the lock**, or that takes it. -/
lemma Sound.advance {old new : Call} (h : l.Sound) (hcalls : l'.calls = l.calls.set n new)
    (hold : l.calls[n]? = some old) (hlock : ∀ k, l.holder = some k → k = n)
    (hcarries : l.Carries l') (hfits : l'.Fits n new)
    (hheld : ∀ k, l'.holder = some k → k = n ∧ new.holds = true)
    (hfree : l'.holder = none → l'.FitsFree) (honce : new = .succeeded → l.phase = .idle) :
    l'.Sound := by
  have hnew : l'.calls[n]? = some new := by
    rw [hcalls, List.getElem?_set_self (List.getElem?_eq_some_iff.1 hold).1]
  have hother : ∀ {k}, k ≠ n → l'.calls[k]? = l.calls[k]? := by
    intro k hk
    rw [hcalls, List.getElem?_set_ne (Ne.symm hk)]
  have hfirst : ∀ {k}, k ≠ n → l'.calls[k]? = some .succeeded → new ≠ .succeeded := by
    intro k hk hc hsame
    have hfits : l.Fits k .succeeded := h.fits k _ (hother hk ▸ hc)
    exact hfits.1 (honce hsame)
  refine ⟨fun k call hc => ?_, fun k hk => ?_, hfree, fun j k hj hk => ?_⟩
  · by_cases hk : k = n
    · subst hk
      cases hnew.symm.trans hc
      exact hfits
    · rw [hother hk] at hc
      refine (h.fits k call hc).carried hcarries ?_
      rw [Bool.eq_false_iff]
      exact fun hholds => hk (hlock k (h.alone hc hholds))
  · obtain ⟨rfl, hholds⟩ := hheld k hk
    exact ⟨new, hnew, hholds⟩
  · by_cases hjn : j = n
    · by_cases hkn : k = n
      · rw [hjn, hkn]
      · rw [hjn, hnew, Option.some.injEq] at hj
        exact absurd hj (hfirst hkn hk)
    · by_cases hkn : k = n
      · rw [hkn, hnew, Option.some.injEq] at hk
        exact absurd hk (hfirst hjn hj)
      · exact h.once j k (hother hjn ▸ hj) (hother hkn ▸ hk)

/-- No call sees that others move aside, or that a stop asks for the end. -/
lemma Fits.congr {call : Call} {asked : Bool} {urls : List Url} {calls : List Call}
    (h : l.Fits n call) (hasked : l.cancelled = true → asked = true) :
    Fits { l with calls, cancelled := asked, documents := urls } n call := by
  cases call with
  | start s =>
    refine ⟨?_, h.2⟩
    cases s with
    | done result => cases result <;> exact h.1
    | _ => exact h.1
  | stop s =>
    refine ⟨?_, h.2⟩
    cases s with
    | called => trivial
    | waiting => exact hasked h.1
    | _ => exact ⟨hasked h.1.1, h.1.2⟩
  | document => trivial

/-- **A move of a call that does not hold the lock** before or after. -/
lemma Sound.aside {old new : Call} {asked : Bool} {urls : List Url} (h : l.Sound)
    (hold : l.calls[n]? = some old) (hout : old.holds = false) (hnew : new ≠ .succeeded)
    (hasked : l.cancelled = true → asked = true)
    (hfits : Fits { l with cancelled := asked } n new) :
    Sound { l with calls := l.calls.set n new, cancelled := asked, documents := urls } := by
  have hset : (l.calls.set n new)[n]? = some new :=
    List.getElem?_set_self (List.getElem?_eq_some_iff.1 hold).1
  have hother : ∀ {k : Nat}, k ≠ n → (l.calls.set n new)[k]? = l.calls[k]? :=
    fun hk => List.getElem?_set_ne (Ne.symm hk)
  have hsucceeded : ∀ {k : Nat}, (l.calls.set n new)[k]? = some Call.succeeded →
      l.calls[k]? = some Call.succeeded := by
    intro k hk
    by_cases hkn : k = n
    · rw [hkn, hset, Option.some.injEq] at hk
      exact absurd hk hnew
    · exact hother hkn ▸ hk
  refine ⟨fun k call hc => ?_, fun k hk => ?_, fun hfree => ?_, fun j k hj hk => ?_⟩
  · by_cases hk : k = n
    · subst hk
      cases hset.symm.trans hc
      exact Fits.congr (l := { l with cancelled := asked }) hfits id
    · exact (h.fits k call (hother hk ▸ hc)).congr hasked
  · obtain ⟨call, hc, hholds⟩ := h.held k hk
    have hk : k ≠ n := by
      rintro rfl
      cases hold.symm.trans hc
      exact absurd hholds (by simp [hout])
    exact ⟨call, (hother hk).trans hc, hholds⟩
  · exact ⟨(h.free hfree).idle, (h.free hfree).running, (h.free hfree).stopped⟩
  · exact h.once j k (hsucceeded hj) (hsucceeded hk)

lemma Sound.begin {new : Call} (h : l.Sound) (hin : new.holds = false) (hnew : new ≠ .succeeded)
    (hfits : ∀ n, l.Fits n new) : Sound { l with calls := l.calls ++ [new] } := by
  have hcases : ∀ {k : Nat} {call}, (l.calls ++ [new])[k]? = some call →
      l.calls[k]? = some call ∨ call = new := by
    intro k call hc
    rcases Nat.lt_or_ge k l.calls.length with hk | hk
    · rw [List.getElem?_append_left hk] at hc
      exact .inl hc
    · rw [List.getElem?_append_right hk] at hc
      have hmem := List.mem_of_getElem? hc
      exact .inr (List.mem_singleton.1 hmem)
  have hsucceeded : ∀ {k : Nat}, (l.calls ++ [new])[k]? = some Call.succeeded →
      l.calls[k]? = some Call.succeeded := by
    intro k hk
    exact (hcases hk).resolve_right (Ne.symm hnew)
  refine ⟨fun k call hc => ?_, fun k hk => ?_, fun hfree => ?_, fun j k hj hk => ?_⟩
  · rcases hcases hc with hc | rfl
    · exact Fits.congr (h.fits k call hc) id
    · exact Fits.congr (hfits k) id
  · obtain ⟨call, hc, hholds⟩ := h.held k hk
    refine ⟨call, ?_, hholds⟩
    rw [List.getElem?_append_left (List.getElem?_eq_some_iff.1 hc).1]
    exact hc
  · exact ⟨(h.free hfree).idle, (h.free hfree).running, (h.free hfree).stopped⟩
  · exact h.once j k (hsucceeded hj) (hsucceeded hk)

/-- **What happens outside** ends servers and takes back that one is running. -/
lemma Sound.outside {o : Supervisor.Move} {p : Supervisor} {alive : Bool} (h : l.Sound)
    (ho : o.isOutside = true) (hp : l.process.move? o = some p)
    (halive : l.running = false → alive = false) :
    Sound { l with process := p, running := alive } := by
  have huntouched : ¬ l.Untouched := by
    rintro ⟨-, hnew, -⟩
    rw [hnew, Supervisor.outside_new ho] at hp
    exact absurd hp (by simp)
  have hover : l.Over → Over { l with process := p, running := alive } := by
    rintro ⟨hphase, hfree, hlaunches, hrunning, hprocess⟩
    exact ⟨hphase, hfree, hlaunches, halive hrunning, Supervisor.isRunning_outside ho hp hprocess⟩
  refine ⟨fun n call hc => ?_, h.held, fun hfree => ?_, h.once⟩
  · have hfits := h.fits n call hc
    cases call with
    | start s =>
      refine ⟨?_, hfits.2⟩
      have hstage := hfits.1
      cases s with
      | waiting => trivial
      | entered => exact absurd hstage huntouched
      | discarding => exact ⟨hstage.1, hstage.2.1.outside ho hp, halive hstage.2.2⟩
      | marked | checked => exact hstage
      | done result =>
        cases result with
        | ok => exact hstage
        | error e =>
          exact ⟨hstage.1, hstage.2.imp_right (.imp_right fun hended => hended.outside ho hp)⟩
      | _ => exact ⟨hstage.1, hstage.2.1.outside ho hp, halive hstage.2.2⟩
    | stop s =>
      refine ⟨?_, hfits.2⟩
      have hstage := hfits.1
      cases s with
      | called => trivial
      | waiting => exact hstage
      | done => exact ⟨hstage.1, hover hstage.2⟩
      | _ => exact ⟨hstage.1, hstage.2.1, halive hstage.2.2⟩
    | document => trivial
  · have hstands := h.free hfree
    exact ⟨fun hphase => absurd (hstands.idle hphase) huntouched, hstands.running,
      fun hphase => hover (hstands.stopped hphase)⟩

/-! ## Every move -/

/-- A connection that is idle has no call that a move could take something back from. -/
lemma carries_idle (h : l.phase = .idle) (hcancelled : l'.cancelled = l.cancelled) :
    l.Carries l' := by
  refine ⟨fun hphase => absurd h hphase, fun hc => hcancelled ▸ hc, fun hphase => absurd h hphase,
    ?_⟩
  rintro ⟨hstopped, -⟩
  exact absurd (h.symm.trans hstopped) (by simp)

/-- The start holds the lock of a connection that is idle. -/
lemma Sound.start (h : l.Sound) {s : StartStage} (hc : l.calls[n]? = some (.start s))
    (hs : s.isInside = true) : l.FitsStart s ∧ l.phase = .idle ∧ l.holder = some n := by
  obtain ⟨hfits, hinside⟩ := h.fits n _ hc
  exact ⟨hfits, hinside hs⟩

/-- The stop holds the lock of a connection that is stopped. -/
lemma Sound.stop (h : l.Sound) {s : StopStage} (hc : l.calls[n]? = some (.stop s))
    (hs : s.isInside = true) : l.FitsStop s ∧ l.phase = .stopped ∧ l.holder = some n := by
  obtain ⟨hfits, hinside⟩ := h.fits n _ hc
  exact ⟨hfits, hinside hs⟩

lemma Sound.goesOn (h : l.Sound) {s s' : StartStage} {p : Supervisor} {launches : Nat}
    {running : Bool} (hc : l.calls[n]? = some (.start s)) (hs : s.isInside = true)
    (hs' : s'.isInside = true)
    (hfits : FitsStart { l.put n (.start s') with process := p, launches, running } s') :
    Sound { l.put n (.start s') with process := p, launches, running } := by
  obtain ⟨-, hphase, hholder⟩ := h.start hc hs
  have hlock : ∀ k, l.holder = some k → k = n :=
    fun k hk => Option.some.inj (hk.symm.trans hholder)
  refine h.advance rfl hc hlock (carries_idle hphase rfl) ⟨hfits, fun _ => ⟨hphase, hholder⟩⟩
    (fun k hk => ⟨hlock k hk, hs'⟩) (fun hfree => ?_) (fun _ => hphase)
  exact absurd (hholder.symm.trans hfree) (by simp)

/-- A start that fails leaves the connection over, and no child alive. -/
lemma Sound.failed (h : l.Sound) {s : StartStage} {e : ConnectionError} {p : Supervisor}
    {launches : Nat} (hc : l.calls[n]? = some (.start s)) (hs : s.isInside = true)
    (hlaunches : launches ≤ 1) (hrunning : l.running = false) (hprocess : p.isRunning = false)
    (hended : p.Ended) : Sound { l.failed n e with process := p, launches } := by
  obtain ⟨-, hphase, hholder⟩ := h.start hc hs
  have hover : Over { l.failed n e with process := p, launches } :=
    ⟨rfl, rfl, hlaunches, hrunning, hprocess⟩
  exact h.advance rfl hc (fun k hk => Option.some.inj (hk.symm.trans hholder))
    (carries_idle hphase rfl) ⟨⟨by simp [Life.failed], .inr (.inr hended)⟩, nofun⟩ nofun
    (fun _ => ⟨nofun, nofun, fun _ => hover⟩) (fun _ => hphase)

/-- A start that fails before it has launched anything. -/
lemma Sound.failed_entered (h : l.Sound) {e : ConnectionError} {launches : Nat}
    (hc : l.calls[n]? = some (.start .entered)) (hlaunches : launches ≤ l.launches + 1) :
    Sound { l.failed n e with launches } := by
  obtain ⟨⟨hzero, hnew, hrunning⟩, -⟩ := h.start hc rfl
  exact h.failed hc rfl (by omega) hrunning (hnew ▸ rfl) (hnew ▸ Supervisor.ended_new)

lemma Sound.windsUp (h : l.Sound) {s s' : StopStage} {p : Supervisor} {speaker : Option Nat}
    (hc : l.calls[n]? = some (.stop s)) (hs : s.isInside = true) (hs' : s'.isInside = true)
    (hended : l.process.Ended → p.Ended)
    (hfits : FitsStop { l.put n (.stop s') with process := p, speaker } s') :
    Sound { l.put n (.stop s') with process := p, speaker } := by
  obtain ⟨-, hphase, hholder⟩ := h.stop hc hs
  have hlock : ∀ k, l.holder = some k → k = n :=
    fun k hk => Option.some.inj (hk.symm.trans hholder)
  have hheld : ¬ l.Over := fun hover => absurd (hholder.symm.trans hover.2.1) (by simp)
  refine h.advance rfl hc hlock ⟨id, id, fun _ => hended, fun hover => absurd hover hheld⟩
    ⟨hfits, fun _ => ⟨hphase, hholder⟩⟩ (fun k hk => ⟨hlock k hk, hs'⟩) (fun hfree => ?_) nofun
  exact absurd (hholder.symm.trans hfree) (by simp)

/-- A stop that is done leaves the connection over. -/
lemma Sound.leaves (h : l.Sound) {s : StopStage} {p : Supervisor}
    {result : Except ConnectionError Unit} (hc : l.calls[n]? = some (.stop s))
    (hs : s.isInside = true) (hasked : l.cancelled = true) (hlaunches : l.launches ≤ 1)
    (hrunning : l.running = false) (hended : l.process.Ended → p.Ended)
    (hprocess : p.isRunning = false) : Sound { l.left n result with process := p } := by
  obtain ⟨-, hphase, hholder⟩ := h.stop hc hs
  have hover : Over { l.left n result with process := p } :=
    ⟨hphase, rfl, hlaunches, hrunning, hprocess⟩
  exact h.advance rfl hc (fun k hk => Option.some.inj (hk.symm.trans hholder))
    ⟨id, id, fun _ => hended, fun _ => hover⟩ ⟨⟨hasked, hover⟩, nofun⟩ nofun
    (fun _ => ⟨fun hidle => absurd (hphase.symm.trans hidle) (by simp),
      fun hrun => absurd (hphase.symm.trans hrun) (by simp), fun _ => hover⟩) nofun

lemma fitsStart_underWay {s : StartStage} (hs : s.isUnderWay = true) :
    l.FitsStart s ↔ l.launches = 1 ∧ l.process.Tracks ∧ l.running = false := by
  cases s with
  | spawned | answering | equipped | initializing => exact Iff.rfl
  | _ => exact absurd hs (by simp [StartStage.isUnderWay])

lemma isInside_of_isUnderWay {s : StartStage} (hs : s.isUnderWay = true) : s.isInside = true := by
  cases s with
  | spawned | answering | equipped | initializing => rfl
  | _ => exact absurd hs (by simp [StartStage.isUnderWay])

/-- **Every move keeps the invariant.** -/
theorem Sound.step (h : l.Sound) (hstep : l.Step m l') : l'.Sound := by
  cases hstep with
  | other => exact h
  | callStart => exact h.begin rfl nofun fun _ => ⟨trivial, nofun⟩
  | callStop => exact h.begin rfl nofun fun _ => ⟨trivial, nofun⟩
  | callDocument => exact h.begin rfl nofun fun _ => trivial
  | document _ hc => exact h.aside hc rfl nofun id trivial
  | @lockForStart n hc hfree hphase =>
    have hstands : l.Untouched := (h.free hfree).idle hphase
    refine h.advance rfl hc (fun k hk => absurd (hk.symm.trans hfree) (by simp))
      (carries_idle hphase rfl) ⟨hstands, fun _ => ⟨hphase, rfl⟩⟩
      (fun k hk => ⟨(Option.some.inj hk).symm, rfl⟩) nofun nofun
  | refuseStarted hc hfree hphase =>
    exact h.aside hc rfl nofun id ⟨⟨by simp [hphase], .inl rfl⟩, nofun⟩
  | refuseStopped hc hfree hphase =>
    exact h.aside hc rfl nofun id ⟨⟨by simp [hphase], .inr (.inl rfl)⟩, nofun⟩
  | refrain hc | misplaced _ hc => exact h.failed_entered hc (Nat.le_succ _)
  | unlaunched e hc => exact h.failed_entered hc le_rfl
  | @launch n pid root hc hasked hidle =>
    obtain ⟨⟨hzero, hnew, hrunning⟩, -⟩ := h.start hc rfl
    refine h.goesOn hc rfl rfl ⟨by simp [hzero], ?_, hrunning⟩
    rw [hnew]
    exact Supervisor.tracks_launch pid
  | answer hc | installHandlers hc | sendInitialize _ hc | finishInitialize hc =>
    exact h.goesOn hc rfl rfl (h.start hc rfl).1
  | discard e hc hs _ hpid =>
    have hinside := isInside_of_isUnderWay hs
    obtain ⟨hlaunches, htracks, hrunning⟩ := (fitsStart_underWay hs).1 (h.start hc hinside).1
    exact h.goesOn hc hinside rfl ⟨hlaunches, htracks.ended_exit hpid none, hrunning⟩
  | collapse hc hs _ hpid =>
    have hinside := isInside_of_isUnderWay hs
    obtain ⟨hlaunches, htracks, hrunning⟩ := (fitsStart_underWay hs).1 (h.start hc hinside).1
    have hprocess : l.process.isRunning = false := Option.isSome_eq_false_iff.2 (by simp [hpid])
    exact h.failed hc hinside hlaunches.le hrunning hprocess (htracks.ended hpid)
  | @abortStart n s hc hs hasked =>
    rcases hs with hs | ⟨e, rfl⟩
    · have hinside := isInside_of_isUnderWay hs
      obtain ⟨hlaunches, htracks, hrunning⟩ :=
        (fitsStart_underWay hs).1 (h.start hc hinside).1
      exact h.failed hc hinside hlaunches.le hrunning (Supervisor.isRunning_kill _)
        htracks.ended_kill
    · obtain ⟨⟨hlaunches, hended, hrunning⟩, -⟩ := h.start hc rfl
      exact h.failed hc rfl hlaunches.le hrunning (Supervisor.isRunning_kill _) hended.kill
  | finishDiscard hc hasked =>
    obtain ⟨⟨hlaunches, hended, hrunning⟩, -⟩ := h.start hc rfl
    exact h.failed hc rfl hlaunches.le hrunning rfl (Supervisor.ended_finishStop hended)
  | markRunning hc => exact h.goesOn hc rfl rfl (h.start hc rfl).1.1
  | checkAlive hc => exact h.goesOn hc rfl rfl (h.start hc rfl).1
  | @finishStart n alive hc =>
    -- the one place where a connection comes to run: its start still holds the lock and leaves it
    obtain ⟨hlaunches, hphase, hholder⟩ := h.start hc rfl
    exact h.advance rfl hc (fun k hk => Option.some.inj (hk.symm.trans hholder))
      (carries_idle hphase rfl) ⟨nofun, nofun⟩ nofun
      (fun _ => ⟨nofun, fun _ => hlaunches, nofun⟩) (fun _ => hphase)
  | cancelStart hc => exact h.aside hc rfl nofun (fun _ => rfl) ⟨rfl, nofun⟩
  | lockForStop hc hfree hphase =>
    have hasked := (h.fits _ _ hc).1
    have hlaunches := (h.free hfree).running hphase
    refine h.advance rfl hc (fun k hk => absurd (hk.symm.trans hfree) (by simp))
      ⟨nofun, id, fun _ => id, ?_⟩ ⟨⟨hasked, hlaunches.le, rfl⟩, fun _ => ⟨rfl, rfl⟩⟩
      (fun k hk => ⟨(Option.some.inj hk).symm, rfl⟩) nofun nofun
    rintro ⟨hstopped, -⟩
    exact absurd (hphase.symm.trans hstopped) (by simp)
  | @rest n hc hfree hphase =>
    -- there is nothing to stop: no start came so far, or an earlier stop has done it all
    have hasked := (h.fits _ _ hc).1
    have hover : Over { l.left n (.ok ()) with phase := .stopped, running := false } := by
      cases hwas : l.phase with
      | idle =>
        obtain ⟨hzero, hnew, -⟩ := (h.free hfree).idle hwas
        exact ⟨rfl, rfl, hzero.le.trans (Nat.zero_le 1), rfl, hnew ▸ rfl⟩
      | running => exact absurd hwas hphase
      | stopped =>
        obtain ⟨-, -, hlaunches, -, hprocess⟩ := (h.free hfree).stopped hwas
        exact ⟨rfl, rfl, hlaunches, rfl, hprocess⟩
    exact h.advance rfl hc (fun k hk => absurd (hk.symm.trans hfree) (by simp))
      ⟨nofun, id, fun _ => id, fun _ => hover⟩ ⟨⟨hasked, hover⟩, nofun⟩ nofun
      (fun _ => ⟨nofun, nofun, fun _ => hover⟩) nofun
  | sendShutdown hc _ hs =>
    rcases hs with rfl | ⟨id, rfl⟩
    · exact h.windsUp hc rfl rfl (fun hended => hended) (h.stop hc rfl).1
    · exact h.windsUp hc rfl rfl (fun hended => hended) (h.stop hc rfl).1
  | stopWatching hc | finishShutdown hc | flush _ hc | close hc =>
    exact h.windsUp hc rfl rfl id (h.stop hc rfl).1
  | checkProcess hc halive => exact h.windsUp hc rfl rfl id (h.stop hc rfl).1
  | leave hc halive =>
    obtain ⟨⟨hasked, hlaunches, hrunning⟩, -⟩ := h.stop hc rfl
    exact h.leaves hc rfl hasked hlaunches hrunning id halive
  | stopProcess hc halive => exact h.windsUp hc rfl rfl Supervisor.ended_closePipe (h.stop hc rfl).1
  | miss hc halive =>
    obtain ⟨⟨hasked, hlaunches, hrunning⟩, -⟩ := h.stop hc rfl
    exact h.leaves hc rfl hasked hlaunches hrunning id halive
  | awaitExit hc =>
    obtain ⟨⟨hasked, hlaunches, hrunning⟩, -⟩ := h.stop hc rfl
    exact h.leaves hc rfl hasked hlaunches hrunning Supervisor.ended_finishStop rfl
  -- the end of the server and its news touch the process alone
  | exit hp => exact h.outside rfl hp id
  | record hp => exact h.outside rfl hp id
  | report hp => exact h.outside rfl hp fun _ => rfl

/-! ## What a move can lead to -/

/-- The phase moves forward only. -/
lemma Sound.phase_step (h : l.Sound) (hstep : l.Step m l') :
    l'.phase = l.phase ∨ l.phase = .idle ∧ l'.phase = .running
      ∨ l.phase = .idle ∧ l'.phase = .stopped ∨ l.phase = .running ∧ l'.phase = .stopped := by
  cases hstep with
  | refrain hc | misplaced _ hc | unlaunched _ hc | finishDiscard hc =>
    exact .inr (.inr (.inl ⟨(h.start hc rfl).2.1, rfl⟩))
  | collapse hc hs =>
    exact .inr (.inr (.inl ⟨(h.start hc (isInside_of_isUnderWay hs)).2.1, rfl⟩))
  | abortStart hc hs =>
    refine .inr (.inr (.inl ⟨?_, rfl⟩))
    rcases hs with hs | ⟨e, rfl⟩
    · exact (h.start hc (isInside_of_isUnderWay hs)).2.1
    · exact (h.start hc rfl).2.1
  | finishStart hc => exact .inr (.inl ⟨(h.start hc rfl).2.1, rfl⟩)
  | lockForStop hc hfree hphase => exact .inr (.inr (.inr ⟨hphase, rfl⟩))
  | rest hc hfree hphase =>
    cases hwas : l.phase with
    | idle => exact .inr (.inr (.inl ⟨rfl, rfl⟩))
    | running => exact absurd hwas hphase
    | stopped => exact .inl rfl
  | _ => exact .inl rfl

/-- Once a stop has asked for the end, nothing is launched any more. -/
lemma asked_step (hasked : l.cancelled = true) (hstep : l.Step m l') :
    l'.cancelled = true ∧ l'.launches = l.launches := by
  cases hstep with
  | unlaunched _ _ hgo | launch _ _ hgo => exact absurd (hasked.symm.trans hgo) (by simp)
  | cancelStart => exact ⟨rfl, rfl⟩
  | _ => exact ⟨hasked, rfl⟩

lemma Sound.over_step (h : l.Sound) (hover : l.Over) (hstep : l.Step m l') : l'.Over := by
  have hstart : ∀ {n : Nat} {s : StartStage}, l.calls[n]? = some (.start s) →
      s.isInside = true → l'.Over :=
    fun hc hs => absurd ((h.start hc hs).2.2.symm.trans hover.2.1) (by simp)
  have hstop : ∀ {n : Nat} {s : StopStage}, l.calls[n]? = some (.stop s) →
      s.isInside = true → l'.Over :=
    fun hc hs => absurd ((h.stop hc hs).2.2.symm.trans hover.2.1) (by simp)
  cases hstep with
  | other | callStart | callStop | callDocument | document | refuseStarted | refuseStopped
  | cancelStart =>
    exact hover
  | lockForStart _ _ hphase => exact absurd (hphase.symm.trans hover.1) (by simp)
  | lockForStop _ _ hphase => exact absurd (hphase.symm.trans hover.1) (by simp)
  | rest => exact ⟨rfl, rfl, hover.2.2.1, rfl, hover.2.2.2.2⟩
  | refrain hc | misplaced _ hc | unlaunched _ hc | launch _ hc | finishDiscard hc | markRunning hc
  | checkAlive hc | finishStart hc | answer hc | installHandlers hc | sendInitialize _ hc
  | finishInitialize hc => exact hstart hc rfl
  | discard _ hc hs | collapse hc hs => exact hstart hc (isInside_of_isUnderWay hs)
  | abortStart hc hs =>
    rcases hs with hs | ⟨e, rfl⟩
    · exact hstart hc (isInside_of_isUnderWay hs)
    · exact hstart hc rfl
  | stopWatching hc | sendShutdown hc | finishShutdown hc | flush _ hc | close hc | checkProcess hc
  | leave hc | stopProcess hc | miss hc | awaitExit hc => exact hstop hc rfl
  | exit hp | record hp =>
    obtain ⟨hphase, hfree, hlaunches, hrunning, hprocess⟩ := hover
    exact ⟨hphase, hfree, hlaunches, hrunning, Supervisor.isRunning_outside rfl hp hprocess⟩
  | report hp =>
    obtain ⟨hphase, hfree, hlaunches, -, hprocess⟩ := hover
    exact ⟨hphase, hfree, hlaunches, rfl, Supervisor.isRunning_outside rfl hp hprocess⟩

end Life

end ServerLink.Connection
