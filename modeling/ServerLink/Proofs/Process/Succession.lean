import Mathlib
import ServerLink.Proofs.History
import ServerLink.Proofs.Process.Steps

/-!
# A child and its successor

The state of a service speaks of the child that was started last, and what the caller does goes by
the state.  The news of an end is late, and is not told apart by the child it comes from.

**Named.**  From its launch on the state names a child until the next end is recorded, whosever it
is, or the next child is given up (`Succeeds.named`).  As long as it does, what the caller does
meets that child (`Serves`).

**Kept.**  The state should name a child until that child ends or is given up (`Keeps`).  That is so
exactly where no end is still to be recorded at its launch (`Succeeds.keeps`).  Otherwise the late
end may come at any time, and then the child lives on while everything the caller does passes it by
(`Forgets`).

**Orderly.**  A service that never kills and never gives up in vain starts a child only after the
end of the one before was recorded (`Orderly`): then every launch is kept.
-/

namespace ServerLink.Process.Service

/-- A step by which a child ends, or by which the caller gives its child up. -/
def Step.ends (pid : Nat) : Step → Bool
  | .exit q _ => q = pid
  | .kill | .see | .giveUp => true
  | _ => false

/-- The state names the child until it ends or is given up. -/
def Keeps (s : Service) (pid : Nat) : Prop :=
  ∀ {later : List (Service × Step)} {t : Service}, History step? s later t →
    (∀ x ∈ later, x.2.ends pid = false) → t.supervisor.state = .running pid

/-- What the caller does meets the child. -/
structure Serves (s : Service) (pid : Nat) : Prop where
  running : s.supervisor.isRunning = true
  refuses : ∀ outcome, s.start outcome = (s, some .alreadyStarted)
  stops : ∀ mode, s.beginStop mode = ({ s.unpiped with stage := firstStage pid mode }, none)
  kills : ∀ c ∈ s.kill.supervisor.children, c.pid = pid → c.ending.isSome = true

/-- The child lives, and what the caller does passes it by. -/
structure Forgets (s : Service) (pid : Nat) : Prop where
  alive : s.supervisor.isAlive pid = true
  idle : s.supervisor.isRunning = false
  starts : ∀ next, next ∉ s.pids → (s.start (.ok next)).2 = none
  stops : ∀ mode, s.beginStop mode = (s, some .notStarted)
  kills : s.kill = s

/-- What comes of a start that succeeds, after what was done before. -/
structure Succeeds (before : List (Service × Step)) (s : Service) (pid : Nat) (t : Service) :
    Prop where
  /-- The state names the child until an end is recorded or a child is given up. -/
  named : ∀ {later : List (Service × Step)} {u : Service}, History step? t later u →
    (u.supervisor.state = .running pid ↔ ∀ x ∈ later, x.2.unnames = false)
  serves : ∀ {u : Service}, u.supervisor.state = .running pid → u.Serves pid
  /-- It names the child until that child ends or is given up, where no end was to be recorded. -/
  keeps : t.Keeps pid ↔ ∀ old, ¬ s.Awaits old
  /-- Where one was, its record brings the child out of sight. -/
  forgets : ∀ {old : Nat}, s.Awaits old → ∃ later u, History step? t later u ∧ u.Forgets pid ∧
    ∀ x ∈ later, x.2.ends pid = false ∧ (x.2 = .exit old none ∨ x.2 = .record old)
  /-- An end is still to be recorded only after a child was killed or given up in vain. -/
  cause : ∀ {old : Nat}, s.Awaits old →
    ∃ x ∈ before, x.2 = .giveUp ∨ x.2 = .kill ∧ x.1.supervisor.isRunning = true

variable {s t u : Service} {st : Step} {pid old : Nat} {before later : List (Service × Step)}

/-! ## As long as the state names the child -/

/-- **The state names a child** until a step unnames it, and never again. -/
lemma named_iff (hs : s.supervisor.state = .running pid) (hpid : pid ∈ s.pids)
    (h : History step? s later t) :
    t.supervisor.state = .running pid ↔ ∀ x ∈ later, x.2.unnames = false := by
  suffices hboth : pid ∈ t.pids ∧
      (t.supervisor.state = .running pid ↔ ∀ x ∈ later, x.2.unnames = false) from hboth.2
  induction h with
  | start => exact ⟨hpid, by simpa using hs⟩
  | @step past t u st _ next ih =>
    have hstep := steps_of_step? next
    refine ⟨hstep.mem_pids ih.1, ?_⟩
    have hsnoc : (∀ x ∈ past ++ [(t, st)], x.2.unnames = false)
        ↔ (∀ x ∈ past, x.2.unnames = false) ∧ st.unnames = false := by
      simp [or_imp, forall_and]
    rw [hsnoc, ← ih.2]
    by_cases ht : t.supervisor.state = .running pid
    · simpa [ht] using hstep.named ht
    · simpa [ht] using hstep.unnamed ih.1 ht

/-- **What the caller does** goes by the state. -/
lemma serves_of_named (hs : s.supervisor.state = .running pid) : s.Serves pid := by
  have hrunning := isRunning_of_named hs
  refine ⟨hrunning, start_of_running hrunning, beginStop_of_named hs, fun c hc hpid => ?_⟩
  rw [kill_of_named hs] at hc
  obtain ⟨d, hd, hdpid, -, hending⟩ := Supervisor.news_givenUp hc
  obtain ⟨e, -, rfl⟩ := Supervisor.mem_change hd
  rw [← hending]
  split
  · cases e.ending <;> rfl
  · rename_i hne
    rw [if_neg hne] at hdpid
    exact absurd (hdpid.trans hpid) hne

/-! ## Until the child ends -/

/-- No child of the number has ended. -/
def Lives (s : Service) (pid : Nat) : Prop :=
  ∀ c ∈ s.supervisor.children, c.pid = pid → c.ending = none

lemma Lives.isAlive (h : s.Lives pid) (hpid : pid ∈ s.pids) : s.supervisor.isAlive pid = true := by
  cases hc : s.supervisor.child? pid with
  | none => exact absurd hpid (Supervisor.child?_eq_none.1 hc)
  | some c =>
    obtain ⟨hmem, hcpid⟩ := Supervisor.child?_mem hc
    simp [Supervisor.isAlive, hc, h c hmem hcpid]

lemma lives_launched (hfresh : pid ∉ s.pids) : (s.launched pid).Lives pid := by
  intro c hc hpid
  rcases List.mem_append.1 hc with hc | hc
  · exact absurd (hpid ▸ List.mem_map_of_mem hc) hfresh
  · rw [List.mem_singleton] at hc
    rw [hc]

/-- A child lives on, unless a step ends it. -/
lemma Steps.lives (h : Steps s st t) (hst : st.ends pid = false) (hs : s.Lives pid) :
    t.Lives pid := by
  have same : ∀ {f : Child → Child} {q : Nat}, (∀ c, (f c).pid = c.pid) →
      (∀ c, c.pid = q → q = pid → (f c).ending = c.ending) →
      ∀ c ∈ (s.supervisor.change q f).children, c.pid = pid → c.ending = none := by
    intro f q hfpid hf c hc hcpid
    obtain ⟨d, hd, rfl⟩ := Supervisor.mem_change hc
    split at hcpid
    · rename_i hq
      rw [hfpid] at hcpid
      rw [if_pos hq, hf d hq (hq.symm.trans hcpid)]
      exact hs d hd hcpid
    · rename_i hq
      rw [if_neg hq]
      exact hs d hd hcpid
  cases h with
  | launch _ _ hfresh =>
    intro c hc hcpid
    rcases List.mem_append.1 hc with hc | hc
    · exact hs c hc hcpid
    · rw [List.mem_singleton] at hc
      rw [hc]
  | refuse | fail | takePipe | spare | stop | deny | escalate | abandon | voice => exact hs
  | kill | see | giveUp => exact absurd hst (by simp [Step.ends])
  | exit =>
    refine same (fun _ => rfl) fun c _ hq => ?_
    simp [Step.ends, hq] at hst
  | record | tell => exact same (fun _ => rfl) fun _ _ _ => rfl

/-- The state names the child, which lives, and no other end is to be recorded. -/
structure Sole (s : Service) (pid : Nat) : Prop where
  named : s.supervisor.state = .running pid
  known : pid ∈ s.pids
  lives : s.Lives pid
  alone : ∀ {q}, s.Awaits q → q = pid

lemma Sole.step (hs : s.Sole pid) (h : Steps s st t) (hst : st.ends pid = false) : t.Sole pid := by
  have hkeeps : st.unnames = false := by
    cases h with
    | kill | see | giveUp => exact absurd hst (by simp [Step.ends])
    | spare _ hidle => exact absurd hs.named (Supervisor.not_running_of_idle hidle pid)
    | @record c q hc hended hnews =>
      obtain ⟨hmem, hq⟩ := Supervisor.child?_mem hc
      have hcpid : c.pid = pid := hq.trans (hs.alone ⟨c, hmem, hq, hnews⟩)
      rw [hs.lives c hmem hcpid] at hended
      exact absurd hended (by simp)
    | _ => rfl
  refine ⟨(h.named hs.named).2 hkeeps, h.mem_pids hs.known, h.lives hst hs.lives,
    fun {q} hq => ?_⟩
  obtain ⟨hawaits, -⟩ | ⟨rfl, -⟩ := h.awaited hq
  · exact hs.alone hawaits
  · cases h with
    | launch _ hidle => exact absurd hs.named (Supervisor.not_running_of_idle hidle pid)
    | refuse => exact hs.alone hq

/-- A child that is launched where no end is to be recorded is the only one. -/
lemma sole_launched (hfresh : pid ∉ s.pids) (hnone : ∀ old, ¬ s.Awaits old) :
    (s.launched pid).Sole pid := by
  refine ⟨rfl, mem_pids_launched s pid, lives_launched hfresh, fun {q} hq => ?_⟩
  obtain ⟨c, hc, hcpid, hnews⟩ := hq
  rcases List.mem_append.1 hc with hc | hc
  · exact absurd ⟨c, hc, hcpid, hnews⟩ (hnone q)
  · rw [List.mem_singleton] at hc
    rw [← hcpid, hc]

lemma Sole.keeps (hs : s.Sole pid) : s.Keeps pid := fun hlater hends =>
  Sole.named (hlater.stays (P := fun u => u.Sole pid) hs
    fun hmem next hu => hu.step (steps_of_step? next) (hends _ hmem))

/-! ## The late end of another -/

/-- A child that has ended can be recorded, and then the state names none. -/
lemma record_of_ended {c : Child} (hc : s.supervisor.child? old = some c)
    (hended : c.ending.isSome = true) (hnews : c.news = .awaited) :
    ∃ t, s.step? (.record old) = some t ∧ t.supervisor.isRunning = false := by
  refine ⟨{ s with
    supervisor := { s.supervisor.change old fun c => { c with news := .recorded } with
      state := .stopped } }, ?_, rfl⟩
  simp [step?, act?, Supervisor.move?, hc, hended, hnews]

/-- **An end that is to be recorded** can be recorded, once the child has ended, and nothing else
need happen. -/
lemma exists_record (hnodup : s.pids.Nodup) (h : s.Awaits old) :
    ∃ later t, History step? s later t ∧ t.supervisor.isRunning = false ∧
      ∀ x ∈ later, x.2 = .exit old none ∨ x.2 = .record old := by
  obtain ⟨c, hc, rfl, hnews⟩ := h
  have hchild := child?_of_mem hnodup hc
  cases hending : c.ending with
  | some code =>
    obtain ⟨t, ht, hidle⟩ := record_of_ended hchild (by simp [hending]) hnews
    exact ⟨[(s, .record c.pid)], t, .single ht, hidle, by simp⟩
  | none =>
    have halive : s.supervisor.isAlive c.pid = true := by
      simp [Supervisor.isAlive, hchild, hending]
    let f (d : Child) : Child := { d with ending := some none }
    let ended : Service := { s with supervisor := s.supervisor.change c.pid f }
    have hexit : s.step? (.exit c.pid none) = some ended := by
      simp [step?, act?, Supervisor.move?, halive, ended, f]
    have hmem : f c ∈ ended.supervisor.children :=
      List.mem_map.2 ⟨c, hc, if_pos rfl⟩
    have hnodup' : ended.pids.Nodup := (steps_of_step? hexit).nodup hnodup
    have hchild' : ended.supervisor.child? c.pid = some (f c) := child?_of_mem hnodup' hmem
    obtain ⟨t, ht, hidle⟩ := record_of_ended hchild' rfl hnews
    exact ⟨[(s, .exit c.pid none), (ended, .record c.pid)], t, (History.single hexit).step ht,
      hidle, by simp⟩

/-- **The late end of another** brings a child out of sight. -/
lemma exists_forgets (hnodup : s.pids.Nodup) (hfresh : pid ∉ s.pids) (h : s.Awaits old) :
    ∃ later u, History step? (s.launched pid) later u ∧ u.Forgets pid ∧
      ∀ x ∈ later, x.2.ends pid = false ∧ (x.2 = .exit old none ∨ x.2 = .record old) := by
  have hknown : old ∈ s.pids := by
    obtain ⟨c, hc, rfl, -⟩ := h
    exact List.mem_map_of_mem hc
  have hne : old ≠ pid := fun hsame => hfresh (hsame ▸ hknown)
  have hawaits : (s.launched pid).Awaits old := by
    obtain ⟨c, hc, hcpid, hnews⟩ := h
    exact ⟨c, List.mem_append_left _ hc, hcpid, hnews⟩
  have hnodup' : (s.launched pid).pids.Nodup := by
    rw [pids, launched, Supervisor.launched, List.map_append]
    exact hnodup.append (List.nodup_singleton pid) (by simpa using hfresh)
  obtain ⟨later, u, hlater, hidle, hsteps⟩ := exists_record hnodup' hawaits
  have hends : ∀ x ∈ later, x.2.ends pid = false := by
    intro x hx
    rcases hsteps x hx with hst | hst
    · simp [hst, Step.ends, hne]
    · simp [hst, Step.ends]
  have hlives : pid ∈ u.pids ∧ u.Lives pid :=
    hlater.stays (P := fun u => pid ∈ u.pids ∧ u.Lives pid)
      ⟨mem_pids_launched s pid, lives_launched hfresh⟩ fun hmem next hu =>
        ⟨(steps_of_step? next).mem_pids hu.1, (steps_of_step? next).lives (hends _ hmem) hu.2⟩
  exact ⟨later, u, hlater, ⟨hlives.2.isAlive hlives.1, hidle,
    fun next hnext => by rw [start_ok hidle hnext], beginStop_of_idle hidle, kill_of_idle hidle⟩,
    fun x hx => ⟨hends x hx, hsteps x hx⟩⟩

/-! ## Orderly services -/

/-- Only the child that the state names may still have to be recorded, and its worker is held. -/
structure Orderly (s : Service) : Prop where
  nodup : s.pids.Nodup
  named : ∀ {pid}, s.Awaits pid → s.supervisor.state = .running pid
  held : ∀ {pid}, s.supervisor.state = .running pid → s.supervisor.waiter = some pid

lemma orderly_new (command : Path) : (Service.new command).Orderly :=
  ⟨List.nodup_nil, fun h => by simp [Awaits, new, Supervisor.new] at h, nofun⟩

/-- The end that a stop has seen is recorded. -/
lemma Orderly.not_awaits_of_sawEnd (hs : s.Orderly) (hsaw : s.supervisor.sawEnd = true) :
    ¬ s.Awaits pid := by
  intro h
  obtain ⟨c, hc, rfl, hnews⟩ := id h
  have htold : (s.supervisor.child? c.pid).all (·.news = .told) = true := by
    simpa [Supervisor.sawEnd, hs.held (hs.named h)] using hsaw
  rw [child?_of_mem hs.nodup hc] at htold
  simp [hnews] at htold

/-- The worker of the child that the state names is held. -/
lemma Steps.held (h : Steps s st t)
    (hs : ∀ {pid}, s.supervisor.state = .running pid → s.supervisor.waiter = some pid)
    (ht : t.supervisor.state = .running pid) : t.supervisor.waiter = some pid := by
  cases h with
  | launch =>
    cases ht
    rfl
  | refuse | fail | takePipe | spare | stop | deny | escalate | abandon | exit | tell | voice =>
    exact hs ht
  | kill | see | giveUp | record => exact absurd ht ProcessState.noConfusion

lemma Orderly.step (hs : s.Orderly) (h : Steps s st t) (hst : ¬ s.discards st) : t.Orderly := by
  refine ⟨h.nodup hs.nodup, fun {pid} hawaits => ?_, h.held hs.held⟩
  obtain ⟨hbefore, hrecord⟩ | ⟨-, rfl⟩ := h.awaited hawaits
  · refine (h.named (hs.named hbefore)).2 ?_
    cases h with
    | kill hfree hnamed =>
      exact absurd (.inr ⟨rfl, isRunning_of_named hnamed⟩) hst
    | spare _ hidle =>
      exact absurd (hs.named hbefore) (Supervisor.not_running_of_idle hidle pid)
    | see _ hsaw => exact absurd hbefore (hs.not_awaits_of_sawEnd hsaw)
    | giveUp => exact absurd (.inl rfl) hst
    | @record c q hc _ hnews =>
      -- the state names every child whose end is to be recorded, so there is but one
      obtain ⟨hmem, hq⟩ := Supervisor.child?_mem hc
      have hother := hs.named ⟨c, hmem, hq, hnews⟩
      rw [hs.named hbefore] at hother
      cases hother
      exact absurd rfl hrecord
    | _ => rfl
  · rfl

lemma exists_discards {command : Path} (run : History step? (.new command) before s)
    (hidle : s.supervisor.isRunning = false) (h : s.Awaits old) :
      ∃ x ∈ before, x.1.discards x.2 := by
  by_contra hnone
  push Not at hnone
  have horderly : s.Orderly := run.stays (orderly_new _) fun hmem next hu =>
    hu.step (steps_of_step? next) (hnone _ hmem)
  exact Supervisor.not_running_of_idle hidle old (horderly.named h)

/-! ## Succession -/

/-- **What comes of a start**: the state names the child until the next end is recorded, which is
its own end exactly where no other was left to be recorded. -/
theorem succeeds_of_launches {command : Path} (run : History step? (.new command) before s)
    (h : s.Launches pid t) : Succeeds before s pid t := by
  obtain ⟨-, hidle, hfresh, rfl⟩ := h.spec
  have hnodup : s.pids.Nodup := run.stays (P := fun u => u.pids.Nodup) List.nodup_nil
    fun _ next hu => (steps_of_step? next).nodup hu
  have hforgets : ∀ {old}, s.Awaits old → ∃ later u, History step? (s.launched pid) later u ∧
      u.Forgets pid ∧ ∀ x ∈ later, x.2.ends pid = false
        ∧ (x.2 = .exit old none ∨ x.2 = .record old) :=
    exists_forgets hnodup hfresh
  refine ⟨named_iff rfl (mem_pids_launched s pid), serves_of_named,
    ⟨fun hkeeps old hawaits => ?_, fun hnone => (sole_launched hfresh hnone).keeps⟩, hforgets,
    exists_discards run hidle⟩
  obtain ⟨later, u, hlater, hlost, hsteps⟩ := hforgets hawaits
  exact Supervisor.not_running_of_idle hlost.idle pid (hkeeps hlater fun x hx => (hsteps x hx).1)

/-- What happens to the first child: it is killed. -/
def killing : List Step := [.start (.ok 1), .kill]

/-- The service whose first child was killed. -/
def bereft : Service := (killing.foldlM step? (.new ⟨[]⟩)).getD (.new ⟨[]⟩)

lemma history_bereft : History step? (.new ⟨[]⟩) (trail step? (.new ⟨[]⟩) killing) bereft :=
  .of_foldlM rfl

/-- A child that was killed, and its successor. -/
theorem succeeds_after_kill : ∃ before s t, History step? (.new ⟨[]⟩) before s ∧ s.Launches 2 t ∧
    Succeeds before s 2 t ∧ s.Awaits 1 :=
  ⟨_, _, _, history_bereft, ⟨rfl, rfl⟩, succeeds_of_launches history_bereft ⟨rfl, rfl⟩,
    ⟨_, List.mem_singleton_self _, rfl, rfl⟩⟩

/-- **The late end of a child that was killed** takes its successor out of the state. -/
theorem late_end_unnames : ¬ ∀ before s pid t, History step? (.new ⟨[]⟩) before s →
    s.Launches pid t → t.Keeps pid := by
  intro h
  have hnamed := h _ _ 2 _ history_bereft ⟨rfl, rfl⟩ (History.single (a := .record 1) rfl)
    (by simp [Step.ends])
  exact ProcessState.noConfusion hnamed

end ServerLink.Process.Service
