import Mathlib
import ServerLink.Process.Service

/-!
# What a step of a service does

**Steps.**  `Service.Steps s st t` says under which condition a step happens and what it leaves
behind; `steps_of_step?` that nothing else can happen.

**Names.**  `Service.pids` are the numbers of the children, which only a launch adds to and none is
given twice (`Steps.pids`).  What becomes of the state: a launch names the new child, and every step
that `unnames` ends that, whatever child the state speaks of (`Steps.named`, `Steps.unnamed`).

**News.**  No step forgets that the end of a child is recorded (`Steps.awaited`).
-/

namespace ServerLink.Process

namespace Supervisor

variable {s : Supervisor} {pid : Nat} {f : Child → Child} {c : Child}

lemma state_of_pid? (h : s.state.pid? = some pid) : s.state = .running pid := by
  cases hstate : s.state with
  | running q => simpa [hstate, ProcessState.pid?] using h
  | _ => exact absurd h (by simp [hstate, ProcessState.pid?])

lemma pid?_of_idle (h : s.isRunning = false) : s.state.pid? = none := by
  simpa [isRunning, ProcessState.isRunning] using h

lemma idle_of_pid? (h : s.state.pid? = none) : s.isRunning = false := by
  simp [isRunning, ProcessState.isRunning, h]

lemma not_running_of_idle (h : s.isRunning = false) (pid : Nat) : s.state ≠ .running pid := by
  intro hstate
  simp [isRunning, ProcessState.isRunning, ProcessState.pid?, hstate] at h

lemma child?_eq_none : s.child? pid = none ↔ pid ∉ s.children.map Child.pid := by
  simp [child?]

lemma child?_mem (h : s.child? pid = some c) : c ∈ s.children ∧ c.pid = pid :=
  ⟨List.mem_of_find?_eq_some h, by simpa using List.find?_some h⟩

/-- A change that keeps the number of a child keeps the numbers of all. -/
lemma pids_change (hf : ∀ c, (f c).pid = c.pid) :
    (s.change pid f).children.map Child.pid = s.children.map Child.pid := by
  rw [change, List.map_map]
  refine List.map_congr_left fun c _ => ?_
  rw [Function.comp_apply]
  split
  · exact hf c
  · rfl

lemma mem_change (hc : c ∈ (s.change pid f).children) :
    ∃ d ∈ s.children, c = if d.pid = pid then f d else d := by
  obtain ⟨d, hd, rfl⟩ := List.mem_map.1 hc
  exact ⟨d, hd, rfl⟩

lemma pids_givenUp : s.givenUp.children.map Child.pid = s.children.map Child.pid := by
  rw [givenUp]
  split
  · exact pids_change fun _ => rfl
  · rfl

lemma news_givenUp (hc : c ∈ s.givenUp.children) :
    ∃ d ∈ s.children, d.pid = c.pid ∧ d.news = c.news ∧ d.ending = c.ending := by
  rw [givenUp] at hc
  split at hc
  · obtain ⟨d, hd, rfl⟩ := mem_change hc
    refine ⟨d, hd, ?_⟩
    split
    · exact ⟨rfl, rfl, rfl⟩
    · exact ⟨rfl, rfl, rfl⟩
  · exact ⟨c, hc, rfl, rfl, rfl⟩

lemma unpiped_eq_self (h : s.pipe = none) : { s with pipe := none } = s := by rw [← h]

lemma closePipe_eq (s : Supervisor) : s.move .closePipe = { s with pipe := none } := by
  cases hpipe : s.pipe with
  | none => simp [move, move?, hpipe, unpiped_eq_self]
  | some pid => simp [move, move?, hpipe]

lemma takePipe_eq (s : Supervisor) : s.takePipe.1 = { s with pipe := none } := by
  cases hpipe : s.pipe with
  | none => simp [takePipe, hpipe, unpiped_eq_self]
  | some pid => simp [takePipe, move, move?, hpipe]

lemma children_reap (s : Supervisor) : (s.move .reap).children = s.children := by
  rw [move, move?]
  split
  · split
    · rfl
    · rfl
  · rfl

/-- What is left once a stop is over. -/
lemma finishStop_eq (s : Supervisor) : s.finishStop = (s.move .reap).givenUp := rfl

lemma news_finishStop (hc : c ∈ s.finishStop.children) :
    ∃ d ∈ s.children, d.pid = c.pid ∧ d.news = c.news ∧ d.ending = c.ending := by
  obtain ⟨d, hd, hsame⟩ := news_givenUp (finishStop_eq s ▸ hc)
  exact ⟨d, children_reap s ▸ hd, hsame⟩

lemma pids_finishStop : s.finishStop.children.map Child.pid = s.children.map Child.pid := by
  rw [finishStop_eq, pids_givenUp, children_reap]

end Supervisor

namespace Service

/-- The numbers of the children, in the order in which they were started. -/
def pids (s : Service) : List Nat := s.supervisor.children.map Child.pid

/-- The service that has launched a child. -/
def launched (s : Service) (pid : Nat) : Service :=
  let heard := s.supervisor.listener.isNone
  { s with
    supervisor := s.supervisor.launched pid
    voices := s.voices ++ [.start pid heard (heard && s.supervisor.handsOn)] }

/-- The service whose pipe was taken or closed. -/
def unpiped (s : Service) : Service := { s with supervisor := { s.supervisor with pipe := none } }

/-- The stage in which a stop begins. -/
def firstStage (pid : Nat) : Supervisor.StopMode → Supervisor.StopStage
  | .graceful => .grace pid
  | .force => .killed pid

/-- The step `st` turns `s` into the other service. -/
inductive Steps (s : Service) : Step → Service → Prop where
  | launch {pid : Nat} (hfree : s.isFree = true) (hidle : s.supervisor.isRunning = false)
      (hfresh : pid ∉ s.pids) : Steps s (.start (.ok pid)) (s.launched pid)
  | refuse (outcome : Except SystemError Nat) (hfree : s.isFree = true)
      (hrunning : s.supervisor.isRunning = true) : Steps s (.start outcome) s
  | fail (e : SystemError) (hfree : s.isFree = true) (hidle : s.supervisor.isRunning = false) :
      Steps s (.start (.error e)) s
  | takePipe (hfree : s.isFree = true) : Steps s .takePipe s.unpiped
  | kill {pid : Nat} (hfree : s.isFree = true) (hnamed : s.supervisor.state = .running pid) :
      Steps s .kill { s with
        supervisor := (s.supervisor.change pid fun c =>
          { c with ending := c.ending <|> some none }).givenUp
        voices := s.silenced }
  | spare (hfree : s.isFree = true) (hidle : s.supervisor.isRunning = false) : Steps s .kill s
  | stop (mode : Supervisor.StopMode) {pid : Nat} (hfree : s.isFree = true)
      (hnamed : s.supervisor.state = .running pid) :
      Steps s (.stop mode) { s.unpiped with stage := firstStage pid mode }
  | deny (mode : Supervisor.StopMode) (hfree : s.isFree = true)
      (hidle : s.supervisor.isRunning = false) : Steps s (.stop mode) s
  | see (hbusy : s.isFree = false) (hsaw : s.supervisor.sawEnd = true) : Steps s .see s.finishStop
  | escalate (stage : Supervisor.StopStage) : Steps s .escalate { s with stage }
  | giveUp {pid : Nat} (hstage : s.stage = .killed pid) (hsaw : s.supervisor.sawEnd = false) :
      Steps s .giveUp s.finishStop
  | abandon (hbusy : s.isFree = false) : Steps s .abandon { s with stage := .done }
  | exit {pid : Nat} (code : Option Nat) (halive : s.supervisor.isAlive pid = true) :
      Steps s (.exit pid code) { s with
        supervisor := s.supervisor.change pid fun c => { c with ending := some code } }
  | record {c : Child} {pid : Nat} (hc : s.supervisor.child? pid = some c)
      (hended : c.ending.isSome = true) (hnews : c.news = .awaited) :
      Steps s (.record pid) { s with
        supervisor := { s.supervisor.change pid fun c => { c with news := .recorded } with
          state := .stopped } }
  | tell {c : Child} {pid : Nat} (exits : List Exit) (hc : s.supervisor.child? pid = some c)
      (hnews : c.news = .recorded) :
      Steps s (.tell pid) { s with
        supervisor := { s.supervisor.change pid fun c => { c with news := .told } with exits } }
  | voice {pid : Nat} {m : Voice.Move} {v w : Voice} (hv : s.voice? pid = some v)
      (hw : v.move? m = some w) : Steps s (.voice pid m) (s.put w)

variable {s t : Service} {st : Step} {pid : Nat}

/-! ## What the caller does -/

lemma isRunning_of_named (hnamed : s.supervisor.state = .running pid) :
    s.supervisor.isRunning = true := by
  simp [Supervisor.isRunning, ProcessState.isRunning, ProcessState.pid?, hnamed]

lemma start_of_running (hrunning : s.supervisor.isRunning = true)
    (outcome : Except SystemError Nat) : s.start outcome = (s, some .alreadyStarted) := by
  simp [start, Supervisor.start, hrunning]

lemma start_error (hidle : s.supervisor.isRunning = false) (e : SystemError) :
    s.start (.error e) = (s, some (.spawn s.command.display e)) := by
  simp [start, Supervisor.start, hidle]

lemma start_ok (hidle : s.supervisor.isRunning = false) (hfresh : pid ∉ s.pids) :
    s.start (.ok pid) = (s.launched pid, none) := by
  have hnone : s.supervisor.child? pid = none := Supervisor.child?_eq_none.2 hfresh
  have hmove : s.supervisor.move (.launch pid) = s.supervisor.launched pid := by
    simp [Supervisor.move, Supervisor.move?, hidle, hnone]
  have hstart : s.supervisor.start s.command (.ok pid) = (s.supervisor.launched pid, none) := by
    simp [Supervisor.start, hidle, hmove]
  have hbegun : (s.supervisor.launched pid).children.drop s.supervisor.children.length
      = [⟨pid, none, .awaited, s.supervisor.listener.isNone,
          s.supervisor.listener.isNone && s.supervisor.handsOn⟩] := List.drop_left
  simp only [start, hstart, hbegun]
  rfl

lemma beginStop_of_named (hnamed : s.supervisor.state = .running pid) (mode : Supervisor.StopMode) :
    s.beginStop mode = ({ s.unpiped with stage := firstStage pid mode }, none) := by
  have hpid : s.supervisor.state.pid? = some pid := by rw [hnamed]; rfl
  simp only [beginStop, Supervisor.beginStop, hpid, Supervisor.closePipe_eq]
  cases mode <;> rfl

lemma beginStop_of_idle (hidle : s.supervisor.isRunning = false) (mode : Supervisor.StopMode) :
    s.beginStop mode = (s, some .notStarted) := by
  simp only [beginStop, Supervisor.beginStop, Supervisor.pid?_of_idle hidle]

lemma kill_of_named (hnamed : s.supervisor.state = .running pid) :
    s.kill = { s with
      supervisor := (s.supervisor.change pid fun c =>
        { c with ending := c.ending <|> some none }).givenUp
      voices := s.silenced } := by
  have hpid : s.supervisor.state.pid? = some pid := by rw [hnamed]; rfl
  simp only [kill, isRunning_of_named hnamed, if_true, Supervisor.kill, Supervisor.move,
    Supervisor.move?, hpid, Option.getD_some]

lemma kill_of_idle (hidle : s.supervisor.isRunning = false) : s.kill = s := by
  rw [kill, hidle]
  rfl

lemma named_or_idle (s : Service) :
    (∃ pid, s.supervisor.state = .running pid) ∨ s.supervisor.isRunning = false := by
  cases hpid : s.supervisor.state.pid? with
  | none => exact .inr (Supervisor.idle_of_pid? hpid)
  | some pid => exact .inl ⟨pid, Supervisor.state_of_pid? hpid⟩

/-! ## Steps -/

/-- **Whatever happens** is one of the steps, under its condition. -/
theorem steps_of_step? (h : s.step? st = some t) : Steps s st t := by
  cases st with
  | start outcome =>
    -- a service that runs refuses, whatever the system would have said
    cases outcome with
    | error e =>
      simp only [step?, Option.ite_none_right_eq_some, Option.some.injEq] at h
      obtain ⟨hfree, rfl⟩ := h
      cases hrunning : s.supervisor.isRunning with
      | false => rw [start_error hrunning]; exact .fail e hfree hrunning
      | true => rw [start_of_running hrunning]; exact .refuse _ hfree hrunning
    | ok pid =>
      simp only [step?, Option.ite_none_right_eq_some, Option.some.injEq, Bool.and_eq_true,
        Option.isNone_iff_eq_none] at h
      obtain ⟨⟨hfree, hfresh⟩, rfl⟩ := h
      have hfresh' : pid ∉ s.pids := Supervisor.child?_eq_none.1 hfresh
      cases hrunning : s.supervisor.isRunning with
      | false => rw [start_ok hrunning hfresh']; exact .launch hfree hrunning hfresh'
      | true => rw [start_of_running hrunning]; exact .refuse _ hfree hrunning
  | takePipe =>
    simp only [step?, Option.ite_none_right_eq_some, Option.some.injEq] at h
    obtain ⟨hfree, rfl⟩ := h
    show Steps s .takePipe { s with supervisor := s.supervisor.takePipe.1 }
    rw [Supervisor.takePipe_eq]
    exact .takePipe hfree
  | kill =>
    simp only [step?, Option.ite_none_right_eq_some, Option.some.injEq] at h
    obtain ⟨hfree, rfl⟩ := h
    obtain ⟨pid, hnamed⟩ | hidle := s.named_or_idle
    · rw [kill_of_named hnamed]; exact .kill hfree hnamed
    · rw [kill_of_idle hidle]; exact .spare hfree hidle
  | stop mode =>
    simp only [step?, Option.ite_none_right_eq_some, Option.some.injEq] at h
    obtain ⟨hfree, rfl⟩ := h
    obtain ⟨pid, hnamed⟩ | hidle := s.named_or_idle
    · rw [beginStop_of_named hnamed]; exact .stop mode hfree hnamed
    · rw [beginStop_of_idle hidle]; exact .deny mode hfree hidle
  | see =>
    simp only [step?, Option.ite_none_right_eq_some, Option.some.injEq, Bool.and_eq_true,
      Bool.not_eq_true'] at h
    obtain ⟨⟨hbusy, hsaw⟩, rfl⟩ := h
    exact .see hbusy hsaw
  | escalate =>
    simp only [step?, Option.ite_none_left_eq_some] at h
    obtain ⟨-, h⟩ := h
    split at h
    · cases h; exact .escalate _
    · cases h; exact .escalate _
    · exact absurd h (by simp)
  | giveUp =>
    simp only [step?, Option.ite_none_left_eq_some, Bool.not_eq_true] at h
    obtain ⟨hsaw, h⟩ := h
    split at h
    · rename_i hstage
      cases h
      exact .giveUp hstage hsaw
    · exact absurd h (by simp)
  | abandon =>
    simp only [step?, Option.ite_none_left_eq_some, Option.some.injEq, Bool.not_eq_true] at h
    obtain ⟨hbusy, rfl⟩ := h
    exact .abandon hbusy
  | exit pid code =>
    simp only [step?, act?, Supervisor.move?, Option.map_eq_some_iff,
      Option.ite_none_right_eq_some, Option.some.injEq] at h
    obtain ⟨_, ⟨halive, rfl⟩, rfl⟩ := h
    exact .exit code halive
  | record pid =>
    simp only [step?, act?, Supervisor.move?, Option.map_eq_some_iff] at h
    obtain ⟨u, hu, rfl⟩ := h
    split at hu
    · rename_i c hc
      simp only [Option.ite_none_right_eq_some, Bool.and_eq_true, decide_eq_true_eq,
        Option.some.injEq] at hu
      obtain ⟨⟨hended, hnews⟩, rfl⟩ := hu
      exact .record hc hended hnews
    · exact absurd hu (by simp)
  | tell pid =>
    simp only [step?, act?, Supervisor.move?, Option.map_eq_some_iff] at h
    obtain ⟨u, hu, rfl⟩ := h
    split at hu
    · rename_i hc
      cases hu
      exact .tell _ hc rfl
    · exact absurd hu (by simp)
  | voice pid m =>
    simp only [step?, Option.bind_eq_some_iff, Option.map_eq_some_iff] at h
    obtain ⟨v, hv, w, hw, rfl⟩ := h
    exact .voice hv hw

/-- A start that succeeds. -/
def Launches (s : Service) (pid : Nat) (t : Service) : Prop :=
  s.step? (.start (.ok pid)) = some t ∧ (s.start (.ok pid)).2 = none

lemma Launches.spec (h : s.Launches pid t) :
    s.isFree = true ∧ s.supervisor.isRunning = false ∧ pid ∉ s.pids ∧ t = s.launched pid := by
  obtain ⟨hstep, hnone⟩ := h
  cases steps_of_step? hstep with
  | launch hfree hidle hfresh => exact ⟨hfree, hidle, hfresh, rfl⟩
  | refuse _ _ hrunning =>
    rw [start_of_running hrunning] at hnone
    exact absurd hnone (by simp)

lemma launches_launched (hfree : s.isFree = true) (hidle : s.supervisor.isRunning = false)
    (hfresh : pid ∉ s.pids) : s.Launches pid (s.launched pid) := by
  have hstart := start_ok hidle hfresh
  exact ⟨by simp [step?, hfree, Supervisor.child?_eq_none.2 hfresh, hstart], by rw [hstart]⟩

/-- A step by which a child is given up although its end was not seen. -/
def discards (s : Service) (st : Step) : Prop :=
  st = .giveUp ∨ st = .kill ∧ s.supervisor.isRunning = true

/-- A step by which a child is given up, after which nobody listens. -/
def relieves (s : Service) (st : Step) : Prop := st = .see ∨ s.discards st

/-! ## Numbers -/

/-- **Numbers are given once**: only a launch adds one, and a new one. -/
theorem Steps.pids (h : Steps s st t) :
    t.pids = s.pids ∨ ∃ pid, st = .start (.ok pid) ∧ pid ∉ s.pids ∧ t = s.launched pid
      ∧ t.pids = s.pids ++ [pid] := by
  cases h with
  | launch _ _ hfresh => exact .inr ⟨_, rfl, hfresh, rfl, List.map_append⟩
  | refuse | fail | takePipe | spare | stop | deny | escalate | abandon | voice => exact .inl rfl
  | kill => exact .inl (Supervisor.pids_givenUp.trans (Supervisor.pids_change fun _ => rfl))
  | see | giveUp => exact .inl Supervisor.pids_finishStop
  | exit | record | tell => exact .inl (Supervisor.pids_change fun _ => rfl)

lemma Steps.mem_pids (h : Steps s st t) (hpid : pid ∈ s.pids) : pid ∈ t.pids := by
  obtain hsame | ⟨_, _, _, _, hpids⟩ := h.pids
  · exact hsame ▸ hpid
  · exact hpids ▸ List.mem_append_left _ hpid

/-- **No number is given twice.** -/
lemma Steps.nodup (h : Steps s st t) (hs : s.pids.Nodup) : t.pids.Nodup := by
  obtain hsame | ⟨pid, _, hfresh, _, hpids⟩ := h.pids
  · exact hsame ▸ hs
  · rw [hpids]
    exact hs.append (List.nodup_singleton pid) (by simpa using hfresh)

lemma mem_pids_launched (s : Service) (pid : Nat) : pid ∈ (s.launched pid).pids := by
  simp [pids, launched, Supervisor.launched]

lemma child?_of_mem (hnodup : s.pids.Nodup) {c : Child} (hc : c ∈ s.supervisor.children) :
    s.supervisor.child? c.pid = some c := by
  cases hd : s.supervisor.child? c.pid with
  | none => exact absurd (List.mem_map_of_mem hc) (Supervisor.child?_eq_none.1 hd)
  | some d =>
    obtain ⟨hmem, hpid⟩ := Supervisor.child?_mem hd
    rw [List.inj_on_of_nodup_map hnodup hmem hc hpid]

/-! ## What becomes of the state -/

/-- A step that ends that the state names a child, whatever child that is. -/
def Step.unnames : Step → Bool
  | .kill | .see | .giveUp | .record _ => true
  | _ => false

/-- **As long as the state names a child** nothing but a step that unnames it changes that. -/
theorem Steps.named (h : Steps s st t) (hs : s.supervisor.state = .running pid) :
    t.supervisor.state = .running pid ↔ st.unnames = false := by
  have busy : s.supervisor.isRunning ≠ false := fun hidle =>
    Supervisor.not_running_of_idle hidle pid hs
  have stopped : t.supervisor.state = .stopped → st.unnames = true →
      (t.supervisor.state = .running pid ↔ st.unnames = false) := by
    intro hstopped hst
    rw [hstopped, hst]
    simp
  cases h with
  | launch _ hidle | fail _ _ hidle | spare _ hidle | deny _ _ hidle => exact absurd hidle busy
  | refuse | takePipe | stop | escalate | abandon | exit | tell | voice =>
    exact ⟨fun _ => rfl, fun _ => hs⟩
  | kill | see | giveUp | record => exact stopped rfl rfl

/-- **Once the state names another child or none** it never names the child again. -/
theorem Steps.unnamed (h : Steps s st t) (hpid : pid ∈ s.pids)
    (hs : s.supervisor.state ≠ .running pid) :
    t.supervisor.state ≠ .running pid := by
  cases h with
  | @launch q _ _ hfresh =>
    intro hstate
    cases hstate
    exact hfresh hpid
  | refuse | fail | takePipe | spare | stop | deny | escalate | abandon | exit | tell | voice =>
    exact hs
  | kill | see | giveUp | record => exact ProcessState.noConfusion

/-! ## What becomes of the news -/

/-- The end of a child is still to be recorded. -/
def Awaits (s : Service) (pid : Nat) : Prop :=
  ∃ c ∈ s.supervisor.children, c.pid = pid ∧ c.news = .awaited

/-- **A child whose end is still to be recorded** was just launched, or its end was to be recorded
before and this step has not done it. -/
theorem Steps.awaited (h : Steps s st t) (ht : t.Awaits pid) :
    s.Awaits pid ∧ st ≠ .record pid ∨ st = .start (.ok pid) ∧ t = s.launched pid := by
  obtain ⟨c, hc, hpid, hnews⟩ := ht
  have kept : ∀ {d : Child}, d ∈ s.supervisor.children → d.pid = c.pid → d.news = c.news →
      s.Awaits pid := fun hd hdpid hdnews => ⟨_, hd, hdpid.trans hpid, hdnews.trans hnews⟩
  cases h with
  | launch =>
    rcases List.mem_append.1 hc with hc | hc
    · exact .inl ⟨kept hc rfl rfl, by simp⟩
    · rw [List.mem_singleton] at hc
      subst hc
      subst hpid
      exact .inr ⟨rfl, rfl⟩
  | refuse | fail | takePipe | spare | stop | deny | escalate | abandon | voice =>
    exact .inl ⟨kept hc rfl rfl, by simp⟩
  | kill =>
    obtain ⟨d, hd, hdpid, hdnews, -⟩ := Supervisor.news_givenUp hc
    obtain ⟨e, he, rfl⟩ := Supervisor.mem_change hd
    refine .inl ⟨kept he ?_ ?_, by simp⟩
    · rw [← hdpid]; split <;> rfl
    · rw [← hdnews]; split <;> rfl
  | see | giveUp =>
    obtain ⟨d, hd, hdpid, hdnews, -⟩ := Supervisor.news_finishStop hc
    exact .inl ⟨kept hd hdpid hdnews, by simp⟩
  | exit =>
    obtain ⟨d, hd, rfl⟩ := Supervisor.mem_change hc
    refine .inl ⟨kept hd ?_ ?_, by simp⟩
    · split <;> rfl
    · split <;> rfl
  | @record _ q =>
    -- of two children with one number both would be recorded, so the number decides
    obtain ⟨d, hd, rfl⟩ := Supervisor.mem_change hc
    split at hpid
    · rename_i hq
      rw [if_pos hq] at hnews
      exact absurd hnews (by simp)
    · rename_i hq
      rw [if_neg hq] at hnews
      refine .inl ⟨⟨d, hd, hpid, hnews⟩, ?_⟩
      simp only [ne_eq, Step.record.injEq]
      exact fun hsame => hq (hpid.trans hsame.symm)
  | tell =>
    obtain ⟨d, hd, rfl⟩ := Supervisor.mem_change hc
    split at hpid
    · rename_i hq
      rw [if_pos hq] at hnews
      exact absurd hnews (by simp)
    · rename_i hq
      rw [if_neg hq] at hnews
      exact .inl ⟨⟨d, hd, hpid, hnews⟩, by simp⟩

end Service

end ServerLink.Process
