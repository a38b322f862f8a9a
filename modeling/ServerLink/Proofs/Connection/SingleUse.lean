import Mathlib
import ServerLink.Proofs.Connection.Sound

/-!
# A connection is used once

**`reachable_singleUse`**: however many starts and stops race on a connection, the phase moves
forward only, there is one launch and one start that succeeds, a start that comes late does not
launch, and once a stop is over the connection stays stopped, with no server that is taken to be
running.
-/

namespace ServerLink.Connection

open Process

/-- Where a start can be that took the lock after a stop had asked for the end. -/
inductive StartStage.IsLate : StartStage → Prop where
  | waiting : IsLate .waiting
  | entered : IsLate .entered
  | cancelled : IsLate (.done (.error .cancelled))
  | alreadyStarted : IsLate (.done (.error .alreadyStarted))
  | stopped : IsLate (.done (.error .stopped))

/-- The call `n` is a start that has not had the lock, or it has not begun. -/
def Awaits (c : Connection) (n : Nat) : Prop :=
  ∀ call, c.calls[n]? = some call → call = .start .waiting

/-- A connection is used once. -/
structure SingleUse (c : Connection) : Prop where
  /-- The phase moves from idle to running to stopped, or from idle to stopped. -/
  forward : ∀ m d, c.move? m = some d → d.phase = c.phase ∨ c.phase = .idle ∧ d.phase = .running
    ∨ c.phase = .idle ∧ d.phase = .stopped ∨ c.phase = .running ∧ d.phase = .stopped
  /-- There is one launch at most. -/
  launches : c.launches ≤ 1
  /-- One start at most succeeds. -/
  once : ∀ n k : Nat, c.calls[n]? = some (.start (.done (.ok ()))) →
    c.calls[k]? = some (.start (.done (.ok ()))) → n = k
  /-- Once a stop has asked for the end there is no launch, and a start that takes the lock from
  then on fails. -/
  late : ∀ (k : Nat) s, c.calls[k]? = some (.stop s) → s ≠ .called → ∀ d, Reachable c d →
    d.launches = c.launches ∧ ∀ n, c.Awaits n → ∀ s, d.calls[n]? = some (.start s) → s.IsLate
  /-- A start is refused for the phase that it finds. -/
  refused : ∀ m d (n : Nat) e, c.move? m = some d → c.calls[n]? = some (.start .waiting) →
    d.calls[n]? = some (.start (.done (.error e))) →
    e = .alreadyStarted ∧ c.phase = .running ∨ e = .stopped ∧ c.phase = .stopped
  /-- A start that has just taken the lock gives up at once if a stop has asked for the end. -/
  abandoned : ∀ (k n : Nat) s, c.calls[k]? = some (.stop s) → s ≠ .called →
    c.calls[n]? = some (.start .entered) → ∀ outcome, ∃ d, c.move? (.launch n outcome) = some d
      ∧ d.calls[n]? = some (.start (.done (.error .cancelled)))
  /-- A start that failed on its own or gave up has left no server alive. -/
  ended : ∀ (n : Nat) e, c.calls[n]? = some (.start (.done (.error e))) → e ≠ .alreadyStarted →
    e ≠ .stopped → ∀ child ∈ c.process.children, child.ending.isSome = true
  /-- Once a stop is over the connection is stopped for good, no server is taken to be running, and
  every start from then on fails. -/
  closed : ∀ (k : Nat) result, c.calls[k]? = some (.stop (.done result)) → ∀ d, Reachable c d →
    d.phase = .stopped ∧ d.running = false ∧ d.process.isRunning = false
    ∧ ∀ n, c.Awaits n →
      (∀ s, d.calls[n]? = some (.start s) → s = .waiting ∨ s = .done (.error .stopped))
      ∧ (d.calls[n]? = some (.start .waiting) → ∃ e, d.move? (.lockForStart n) = some e
        ∧ e.calls[n]? = some (.start (.done (.error .stopped))))

variable {c d : Connection}

/-! ## Runs -/

lemma sound_new (config : Config) (home : Path) (processId : Nat) :
    (new config home processId).life.Sound :=
  ⟨nofun, nofun, fun _ => ⟨fun _ => ⟨rfl, rfl, rfl⟩, nofun, nofun⟩, nofun⟩

/-- **Every connection that can be reached stands as it should.** -/
theorem Reachable.sound {config : Config} {home : Path} {processId : Nat}
    (h : Reachable (new config home processId) c) : c.life.Sound := by
  induction h with
  | refl => exact sound_new config home processId
  | step m _ next ih => exact ih.step (step_of_move? next)

lemma Reachable.moves? {b : Connection} {moves : List Move} (h : Reachable b c)
    (hmoves : c.moves? moves = some d) : Reachable b d := by
  induction moves generalizing c with
  | nil =>
    cases hmoves
    exact h
  | cons m rest ih =>
    obtain ⟨e, he, hrest⟩ := Option.bind_eq_some_iff.1 hmoves
    exact ih (.step m h he) hrest

/-- What every move preserves holds from then on. -/
lemma Reachable.stays {P : Life → Prop} (h : Reachable c d) (hsound : c.life.Sound)
    (hstep : ∀ {l l' m}, l.Sound → P l → l.Step m l' → P l') (hc : P c.life) : P d.life := by
  have hboth : d.life.Sound ∧ P d.life := by
    induction h with
    | refl => exact ⟨hsound, hc⟩
    | step m _ next ih =>
      exact ⟨ih.1.step (step_of_move? next), hstep ih.1 ih.2 (step_of_move? next)⟩
  exact hboth.2

namespace Life

variable {l l' : Life} {m : Move} {n : Nat}

lemma Sound.launches_le (h : l.Sound) : l.launches ≤ 1 := by
  cases hholder : l.holder with
  | none =>
    have hfree := h.free hholder
    cases hphase : l.phase with
    | idle => exact (hfree.idle hphase).1.le.trans (Nat.zero_le 1)
    | running => exact (hfree.running hphase).le
    | stopped => exact (hfree.stopped hphase).2.2.1
  | some n =>
    obtain ⟨call, hc, hholds⟩ := h.held n hholder
    cases call with
    | start s =>
      have hfits := (h.start hc hholds).1
      cases s with
      | entered => exact hfits.1.le.trans (Nat.zero_le 1)
      | marked | checked => exact hfits.le
      | waiting | done => exact absurd hholds (by simp [Call.holds, StartStage.isInside])
      | _ => exact hfits.1.le
    | stop s =>
      have hfits := (h.stop hc hholds).1
      cases s with
      | called | waiting | done => exact absurd hholds (by simp [Call.holds, StopStage.isInside])
      | _ => exact hfits.2.1
    | document => exact absurd hholds (by simp [Call.holds])

/-- A stop that has asked for the end is remembered. -/
lemma Sound.asked (h : l.Sound) {k : Nat} {s : StopStage} (hc : l.calls[k]? = some (.stop s))
    (hs : s ≠ .called) : l.cancelled = true := by
  have hfits := (h.fits k _ hc).1
  cases s with
  | called => exact absurd rfl hs
  | waiting => exact hfits
  | _ => exact hfits.1

/-- A start that comes late stays late. -/
lemma late_step (hasked : l.cancelled = true)
    (hlate : ∀ s, l.calls[n]? = some (.start s) → s.IsLate) (hstep : l.Step m l') :
    ∀ s, l'.calls[n]? = some (.start s) → s.IsLate := by
  intro s' hc'
  rcases becomes_of_step hstep n with ⟨-, hsame⟩ | ⟨-, -, hnew, hbegins⟩ | ⟨hc, hnew, hnext⟩
  · exact hlate s' (hsame ▸ hc')
  · cases hnew.symm.trans hc'
    rw [show s' = .waiting from hbegins]
    exact .waiting
  · cases hnew.symm.trans hc'
    rename_i old
    cases old with
    | start s =>
      cases hlate s hc with
      | waiting =>
        rcases hnext with ⟨rfl, -⟩ | ⟨rfl, -⟩ | ⟨rfl, -⟩
        · exact .entered
        · exact .alreadyStarted
        · exact .stopped
      | entered =>
        rw [hnext.1 hasked]
        exact .cancelled
      | cancelled | alreadyStarted | stopped => exact hnext.elim
    | stop => exact hnext.elim
    | document => exact hnext.elim

/-- A start that finds the connection over is refused. -/
lemma refused_step (hover : l.Over)
    (hrefused : ∀ s, l.calls[n]? = some (.start s) → s = .waiting ∨ s = .done (.error .stopped))
    (hstep : l.Step m l') :
    ∀ s, l'.calls[n]? = some (.start s) → s = .waiting ∨ s = .done (.error .stopped) := by
  intro s' hc'
  rcases becomes_of_step hstep n with ⟨-, hsame⟩ | ⟨-, -, hnew, hbegins⟩ | ⟨hc, hnew, hnext⟩
  · exact hrefused s' (hsame ▸ hc')
  · cases hnew.symm.trans hc'
    exact .inl hbegins
  · cases hnew.symm.trans hc'
    rename_i old
    cases old with
    | start s =>
      rcases hrefused s hc with rfl | rfl
      · rcases hnext with ⟨-, hphase⟩ | ⟨-, hphase⟩ | ⟨rfl, -⟩
        · exact absurd (hphase.symm.trans hover.1) (by simp)
        · exact absurd (hphase.symm.trans hover.1) (by simp)
        · exact .inr rfl
      · exact hnext.elim
    | stop => exact hnext.elim
    | document => exact hnext.elim

end Life

/-- A start that waits for the lock of a connection that is over is refused at once. -/
lemma lockForStart_over {n : Nat} (hover : c.life.Over)
    (hc : c.calls[n]? = some (.start .waiting)) :
    ∃ d, c.move? (.lockForStart n) = some d
      ∧ d.calls[n]? = some (.start (.done (.error .stopped))) := by
  have hphase : c.phase = .stopped := hover.1
  have hfree : c.holder = none := hover.2.1
  refine ⟨c.refuseStart n .stopped, ?_, ?_⟩
  · rw [move?, lockForStart, hc, hfree, hphase]
  · exact List.getElem?_set_self (List.getElem?_eq_some_iff.1 hc).1

/-- **A connection is used once.** -/
theorem reachable_singleUse {config : Config} {home : Path} {processId : Nat}
    (h : Reachable (new config home processId) c) : SingleUse c := by
  have hsound := h.sound
  constructor
  case forward =>
    intro m d hmove
    exact hsound.phase_step (step_of_move? hmove)
  case launches => exact hsound.launches_le
  case once => exact hsound.once
  case late =>
    intro k s hc hs d hd
    have hasked := hsound.asked hc hs
    have hkeeps := hd.stays (P := fun l => l.cancelled = true ∧ l.launches = c.launches) hsound
      (fun _ hl hstep =>
        ⟨(Life.asked_step hl.1 hstep).1, (Life.asked_step hl.1 hstep).2.trans hl.2⟩)
      ⟨hasked, rfl⟩
    refine ⟨hkeeps.2, fun n hawaits => ?_⟩
    -- a start that still waits for the lock, or is not there yet, comes too late
    have hlate : ∀ s, c.life.calls[n]? = some (.start s) → s.IsLate := by
      intro s hcs
      cases hawaits _ hcs
      exact .waiting
    exact (hd.stays (P := fun l => l.cancelled = true
        ∧ ∀ s, l.calls[n]? = some (.start s) → s.IsLate) hsound
      (fun _ hl hstep => ⟨(Life.asked_step hl.1 hstep).1, Life.late_step hl.1 hl.2 hstep⟩)
      ⟨hasked, hlate⟩).2
  case refused =>
    intro m d n e hmove hc hc'
    rcases Life.becomes_of_step (step_of_move? hmove) n with
      ⟨-, hsame⟩ | ⟨-, hnone, -⟩ | ⟨hold, hnew, hnext⟩
    · exact absurd (hc'.symm.trans (hsame.trans hc)) (by simp)
    · exact absurd (hc.symm.trans hnone) (by simp)
    · cases hold.symm.trans hc
      cases hnew.symm.trans hc'
      rcases hnext with ⟨hentered, -⟩ | ⟨hstarted, hphase⟩ | ⟨hstopped, hphase⟩
      · exact absurd hentered (by simp)
      · exact .inl ⟨by simpa using hstarted, hphase⟩
      · exact .inr ⟨by simpa using hstopped, hphase⟩
  case abandoned =>
    intro k n s hk hs hc outcome
    have hasked : c.cancelled = true := hsound.asked hk hs
    refine ⟨c.failStart n .cancelled, ?_, ?_⟩
    · rw [move?, launch, hc]
      exact if_pos hasked
    · exact List.getElem?_set_self (List.getElem?_eq_some_iff.1 hc).1
  case ended =>
    intro n e hc hstarted hstopped
    have hfits := (hsound.fits n _ hc).1
    exact (hfits.2.resolve_left hstarted).resolve_left hstopped
  case closed =>
    intro k result hc d hd
    have hover := hd.stays hsound (fun hl hover hstep => hl.over_step hover hstep)
      (hsound.fits k _ hc).1.2
    refine ⟨hover.1, hover.2.2.2.1, hover.2.2.2.2, fun n hawaits => ⟨?_, lockForStart_over hover⟩⟩
    have hwaits : ∀ s, c.life.calls[n]? = some (.start s) →
        s = .waiting ∨ s = .done (.error .stopped) := by
      intro s hcs
      cases hawaits _ hcs
      exact .inl rfl
    exact (hd.stays (P := fun l => l.Over ∧ ∀ s, l.calls[n]? = some (.start s) →
        s = .waiting ∨ s = .done (.error .stopped)) hsound
      (fun hl hboth hstep => ⟨hl.over_step hboth.1 hstep, Life.refused_step hboth.1 hboth.2 hstep⟩)
      ⟨(hsound.fits k _ hc).1.2, hwaits⟩).2

/-! ## A stop that comes while the server is launched -/

/-- A connection to a server on the workspace `/w`. -/
def workshop : Connection :=
  new { command := ⟨Utf8.ofString "confit-lsp"⟩, workingDirectory := none
        workspaceRoot := ⟨Utf8.ofString "/w"⟩, selector := .tomlFiles
        watch := ⟨Config.tomlPattern, []⟩, startTimeout := .ofSeconds 30
        requestTimeout := .ofSeconds 10, clientName := "confit-client", clientVersion := "0.1.0"
        watchDelay := .ofMillis 200 } ⟨Utf8.ofString "/"⟩ 1

/-- The stop asks for the end once the server was launched; a second start comes too late. -/
def race : List Move :=
  [.callStart, .callStop, .lockForStart 0, .launch 0 (.ok 7), .cancelStart 1, .installHandlers 0,
    .abortStart 0, .lockForStop 1, .callStart, .lockForStart 2]

set_option maxRecDepth 4000 in
theorem singleUse_race : ∃ c, Reachable workshop c
    ∧ c.calls = [.start (.done (.error .cancelled)), .stop (.done (.ok ())),
      .start (.done (.error .stopped))]
    ∧ c.launches = 1 ∧ SingleUse c := by
  have hrun : workshop.moves? race = some _ := rfl
  have hreach := Reachable.refl.moves? hrun
  exact ⟨_, hreach, rfl, rfl, reachable_singleUse hreach⟩

end ServerLink.Connection
