import Mathlib
import ServerLink.Proofs.History
import ServerLink.Proofs.Process.Listening
import ServerLink.Proofs.Process.Steps

/-!
# Who is listened to

A service holds one listener at a time, and lets it go only when it gives a child up.

**Listened to.**  A child is listened to from its launch on exactly where no child was started
before, or one was given up since the last that was (`Hearing.listened`): the listener to a child
that ended by itself keeps its place, and its successor has none (`Unrelieved`).

**Heard.**  What a child says that is listened to is not lost before the child is given up, a line
is no text or the stream cannot be read (`Heard.reads`).  The listener can always go on until it has
read all there is (`Heard.goes`), and it has a bound on its moves (`Heard.bound`): so no child waits
for it forever.  Of a child that is not listened to all is lost (`Hearing.unheard`).
-/

namespace ServerLink.Process.Service

/-- What a step adds to what a child said. -/
def Step.words (pid : Nat) : Step → Bytes
  | .voice q m => if q = pid then m.words else []
  | _ => []

/-- What a child said. -/
def said (pid : Nat) (past : List (Service × Step)) : Bytes := past.flatMap fun x => x.2.words pid

/-- A move of the listener to a child. -/
def Step.isListeners (pid : Nat) : Step → Bool
  | .voice q m => q = pid && m.isListeners
  | _ => false

/-- The standard error of a child could not be read. -/
def Stumbled (pid : Nat) (past : List (Service × Step)) : Prop :=
  ∃ x ∈ past, x.2 = .voice pid .failRead

/-- A child was started, and none was given up since. -/
def Unrelieved (past : List (Service × Step)) : Prop :=
  Since (fun x => ∃ pid t, x.2 = .start (.ok pid) ∧ x.1.Launches pid t)
    (fun x => ¬ x.1.relieves x.2) past

/-- A child that was listened to at its launch, after what was done since. -/
structure Heard (later : List (Service × Step)) (u : Service) (pid : Nat) (v : Voice) : Prop where
  voice : u.voice? pid = some v
  reads : ∃ lines, v.Reads (said pid later) lines (Stumbled pid later)
  silenced : v.ear = .silenced → ∃ x ∈ later, x.1.relieves x.2
  /-- The listener can go on, or has read all that was said and waits for more. -/
  goes : v.ear = .listening → v.waiting = [] ∧ v.isOpen = true ∨
    ∃ m w, m.isListeners = true ∧ u.step? (.voice pid m) = some w
  bound : (later.countP fun x => x.2.isListeners pid) + v.work ≤ 2 * (said pid later).length + 1

/-- What comes of the standard error of a child, after what was done before its launch. -/
structure Hearing (before : List (Service × Step)) (pid : Nat) (t : Service) : Prop where
  listened : t.hears pid = true ↔ ¬ Unrelieved before
  heard : ¬ Unrelieved before → ∀ {later : List (Service × Step)} {u : Service},
    History step? t later u → ∃ v, Heard later u pid v
  unheard : Unrelieved before → ∀ {later : List (Service × Step)} {u : Service},
    History step? t later u → ∃ v, u.voice? pid = some v ∧ v.Deaf (said pid later)

variable {s t u : Service} {st : Step} {pid : Nat} {v w : Voice}
  {before later past : List (Service × Step)}

lemma words_of_other (h : ∀ m, st ≠ .voice pid m) : st.words pid = [] := by
  cases st with
  | voice q m => exact if_neg fun (hq : q = pid) => h m (by rw [hq])
  | _ => rfl

lemma isListeners_of_other (h : ∀ m, st ≠ .voice pid m) : st.isListeners pid = false := by
  cases st with
  | voice q m =>
    have hne : q ≠ pid := fun hq => h m (by rw [hq])
    simp [Step.isListeners, hne]
  | _ => rfl

@[simp] lemma words_voice (pid : Nat) (m : Voice.Move) : (Step.voice pid m).words pid = m.words :=
  if_pos rfl

@[simp] lemma isListeners_voice (pid : Nat) (m : Voice.Move) :
    (Step.voice pid m).isListeners pid = m.isListeners := by simp [Step.isListeners]

@[simp] lemma said_append (pid : Nat) (past : List (Service × Step)) (s : Service) (st : Step) :
    said pid (past ++ [(s, st)]) = said pid past ++ st.words pid := by
  simp [said]

lemma stumbled_append (h : Stumbled pid past) : Stumbled pid (past ++ later) :=
  have ⟨x, hx, hst⟩ := h
  ⟨x, List.mem_append_left _ hx, hst⟩

/-! ## Voices -/

/-- A change that keeps the number of a child changes the voice of each child alone. -/
lemma find?_map_voice {voices : List Voice} {f : Voice → Voice} (hf : ∀ v, (f v).pid = v.pid) :
    (voices.map f).find? (·.pid = pid) = (voices.find? (·.pid = pid)).map f := by
  rw [List.find?_map]
  simp only [Function.comp_def, hf]

lemma map_pid_map {voices : List Voice} {f : Voice → Voice} (hf : ∀ v, (f v).pid = v.pid) :
    (voices.map f).map Voice.pid = voices.map Voice.pid := by
  rw [List.map_map]
  exact List.map_congr_left fun v _ => hf v

lemma pid_silenced (s : Service) (v : Voice) :
    (if s.supervisor.listener = some v.pid then v.silence else v).pid = v.pid := by
  split
  · exact v.pid_silence
  · rfl

lemma voice?_silenced (hv : s.voice? pid = some v) :
    (s.silenced.find? (·.pid = pid)) = some v
    ∨ (s.silenced.find? (·.pid = pid)) = some v.silence := by
  rw [silenced, find?_map_voice s.pid_silenced, show s.voices.find? (·.pid = pid) = some v from hv,
    Option.map_some]
  split
  · exact .inr rfl
  · exact .inl rfl

lemma pid_of_voice? (hv : s.voice? pid = some v) : v.pid = pid := by
  simpa using List.find?_some hv

lemma pid_put (w v : Voice) : (if v.pid = w.pid then w else v).pid = v.pid := by
  split
  · exact Eq.symm ‹_›
  · rfl

lemma voice?_put (hv : s.voice? pid = some v) (w : Voice) :
    (s.put w).voice? pid = some (if pid = w.pid then w else v) := by
  rw [voice?, put, find?_map_voice (pid_put w), show s.voices.find? (·.pid = pid) = some v from hv,
    Option.map_some, pid_of_voice? hv]

/-- **What a step does to a voice**: a move of its own, the end of its listener, or nothing. -/
theorem Steps.voice_cases (h : Steps s st t) (hv : s.voice? pid = some v) :
    (∀ m, st ≠ .voice pid m) ∧
        (t.voice? pid = some v ∨ t.voice? pid = some v.silence ∧ s.relieves st) ∨
      ∃ m w, t.voice? pid = some w ∧ st = .voice pid m ∧ v.Moves m w := by
  have relieved : ∀ {u : Service}, u.voices = s.silenced → s.relieves st →
      u.voice? pid = some v ∨ u.voice? pid = some v.silence ∧ s.relieves st := by
    intro u hu hst
    rw [voice?, hu]
    exact (voice?_silenced hv).imp_right (⟨·, hst⟩)
  cases h with
  | launch =>
    refine .inl ⟨by simp, .inl ?_⟩
    rw [voice?, launched, List.find?_append, show s.voices.find? (·.pid = pid) = some v from hv]
    rfl
  | refuse | fail | takePipe | spare | stop | deny | escalate | abandon | exit | record | tell =>
    exact .inl ⟨by simp, .inl hv⟩
  | kill _ hnamed =>
    exact .inl ⟨by simp, relieved rfl (.inr (.inr ⟨rfl, isRunning_of_named hnamed⟩))⟩
  | see => exact .inl ⟨by simp, relieved rfl (.inl rfl)⟩
  | giveUp => exact .inl ⟨by simp, relieved rfl (.inr (.inl rfl))⟩
  | @voice q m v' w hv' hw =>
    have hmoves := Voice.moves_of_move? hw
    have hq : w.pid = q := hmoves.pid.trans (pid_of_voice? hv')
    by_cases hpid : pid = q
    · subst hpid
      rw [hv] at hv'
      cases hv'
      refine .inr ⟨m, w, ?_, rfl, hmoves⟩
      rw [voice?_put hv, if_pos hq.symm]
    · refine .inl ⟨fun _ h => hpid (Step.voice.inj h).1.symm, .inl ?_⟩
      rw [voice?_put hv, if_neg fun h => hpid (h.trans hq)]

lemma Steps.map_pid_voices (h : Steps s st t) (hs : s.voices.map Voice.pid = s.pids) :
    t.voices.map Voice.pid = t.pids := by
  obtain hsame | ⟨pid, rfl, hfresh, rfl, hpids⟩ := h.pids
  · rw [hsame, ← hs]
    cases h with
    | @launch pid _ _ hfresh => exact absurd (hsame ▸ mem_pids_launched s pid) hfresh
    | refuse | fail | takePipe | spare | stop | deny | escalate | abandon | exit | record | tell =>
      rfl
    | kill | see | giveUp => exact map_pid_map s.pid_silenced
    | voice => exact map_pid_map (pid_put _)
  · rw [hpids, launched, List.map_append, hs]
    rfl

lemma voice?_launched (hs : s.voices.map Voice.pid = s.pids) (hfresh : pid ∉ s.pids) :
    ∃ shown,
      (s.launched pid).voice? pid = some (.start pid s.supervisor.listener.isNone shown) := by
  have hnone : s.voices.find? (·.pid = pid) = none := by
    rw [← hs] at hfresh
    simpa using hfresh
  refine ⟨s.supervisor.listener.isNone && s.supervisor.handsOn, ?_⟩
  rw [voice?, launched, List.find?_append, hnone]
  simp [Voice.start]

/-! ## Listeners -/

/-- **A listener is held** once a child was started, until a child is given up. -/
lemma Steps.listener (h : Steps s st t) : t.supervisor.listener.isSome = true ↔
    (∃ pid u, st = .start (.ok pid) ∧ s.Launches pid u) ∨
      s.supervisor.listener.isSome = true ∧ ¬ s.relieves st := by
  have relieved : s.relieves st → t.supervisor.listener = none → (∀ outcome, st ≠ .start outcome) →
      (t.supervisor.listener.isSome = true ↔ (∃ pid u, st = .start (.ok pid) ∧ s.Launches pid u) ∨
        s.supervisor.listener.isSome = true ∧ ¬ s.relieves st) := by
    intro hst hnone hother
    simp [hst, hnone, hother]
  have kept : ¬ s.relieves st → t.supervisor.listener = s.supervisor.listener →
      (∀ pid u, st = .start (.ok pid) → ¬ s.Launches pid u) →
      (t.supervisor.listener.isSome = true ↔ (∃ pid u, st = .start (.ok pid) ∧ s.Launches pid u) ∨
        s.supervisor.listener.isSome = true ∧ ¬ s.relieves st) := by
    intro hst hsame hother
    rw [hsame]
    refine ⟨fun h => .inr ⟨h, hst⟩, ?_⟩
    rintro (⟨pid, u, hstart, hlaunch⟩ | ⟨h, -⟩)
    · exact absurd hlaunch (hother pid u hstart)
    · exact h
  cases h with
  | @launch pid hfree hidle hfresh =>
    have hlaunch := launches_launched hfree hidle hfresh
    have hheld : (s.launched pid).supervisor.listener.isSome = true := by
      cases hlistener : s.supervisor.listener <;> simp [launched, Supervisor.launched, hlistener]
    exact ⟨fun _ => .inl ⟨_, _, rfl, hlaunch⟩, fun _ => hheld⟩
  | refuse _ _ hrunning =>
    refine kept (by simp [relieves, discards]) rfl fun pid u _ hlaunch => ?_
    rw [hlaunch.spec.2.1] at hrunning
    exact absurd hrunning (by simp)
  | fail | takePipe | stop | deny | escalate | abandon | exit | record | tell | voice =>
    exact kept (by simp [relieves, discards]) rfl (by simp)
  | spare _ hidle => exact kept (by simp [relieves, discards, hidle]) rfl (by simp)
  | kill _ hnamed => exact relieved (.inr (.inr ⟨rfl, isRunning_of_named hnamed⟩)) rfl (by simp)
  | see => exact relieved (.inl rfl) rfl (by simp)
  | giveUp => exact relieved (.inr (.inl rfl)) rfl (by simp)

/-- **Whether a listener is held** is told by what was done. -/
lemma unrelieved_iff {command : Path} (run : History step? (.new command) past s) :
    Unrelieved past ↔ s.supervisor.listener.isSome = true := by
  induction run with
  | start => exact iff_of_false not_since_nil (by simp [Service.new, Supervisor.new])
  | step _ next ih =>
    rw [(steps_of_step? next).listener, ← ih]
    exact since_append

/-! ## Hearing -/

lemma hears_launched (hs : s.voices.map Voice.pid = s.pids) (hfresh : pid ∉ s.pids) :
    (s.launched pid).hears pid = s.supervisor.listener.isNone := by
  obtain ⟨shown, hv⟩ := voice?_launched hs hfresh
  rw [hears, hv]
  cases s.supervisor.listener <;> rfl

/-- **A child that is not listened to** never is, and all it says is lost. -/
lemma exists_deaf {shown : Bool} (hv : s.voice? pid = some (.start pid false shown))
    (h : History step? s later u) : ∃ v, u.voice? pid = some v ∧ v.Deaf (said pid later) := by
  induction h with
  | start => exact ⟨_, hv, Voice.deaf_start pid shown⟩
  | @step past t u st _ next ih =>
    obtain ⟨v, hvoice, hdeaf⟩ := ih
    rw [said_append]
    obtain ⟨hother, hsame | ⟨hsilenced, -⟩⟩ | ⟨m, w, hw, rfl, hmoves⟩ :=
      (steps_of_step? next).voice_cases hvoice
    · rw [words_of_other hother, List.append_nil]
      exact ⟨v, hsame, hdeaf⟩
    · rw [words_of_other hother, List.append_nil]
      exact ⟨v.silence, hsilenced, hdeaf.silence⟩
    · rw [words_voice]
      exact ⟨w, hw, hdeaf.move hmoves⟩

/-- The books of a child that is listened to from its launch on. -/
lemma exists_reads {shown : Bool} (hv : s.voice? pid = some (.start pid true shown))
    (h : History step? s later u) : ∃ v lines, u.voice? pid = some v ∧
      v.Reads (said pid later) lines (Stumbled pid later) ∧
      (v.ear = .silenced → ∃ x ∈ later, x.1.relieves x.2) ∧
      (later.countP fun x => x.2.isListeners pid) + v.work ≤ 2 * (said pid later).length + 1 := by
  induction h with
  | start => exact ⟨_, [], hv, (Voice.reads_start pid shown).mono False.elim, nofun, le_rfl⟩
  | @step past t u st _ next ih =>
    obtain ⟨v, lines, hvoice, hreads, hsilenced, hbound⟩ := ih
    rw [said_append, List.countP_append, List.countP_singleton]
    have earlier : v.ear = .silenced → ∃ x ∈ past ++ [(t, st)], x.1.relieves x.2 := fun hear =>
      have ⟨x, hx, hst⟩ := hsilenced hear
      ⟨x, List.mem_append_left _ hx, hst⟩
    obtain ⟨hother, hsame | ⟨hrelieved, hst⟩⟩ | ⟨m, w, hw, rfl, hmoves⟩ :=
      (steps_of_step? next).voice_cases hvoice
    · rw [words_of_other hother, isListeners_of_other hother, List.append_nil]
      exact ⟨v, lines, hsame, hreads.mono stumbled_append, earlier, hbound⟩
    · rw [words_of_other hother, isListeners_of_other hother, List.append_nil]
      have hwork := v.work_silence_le
      exact ⟨v.silence, lines, hrelieved, hreads.silence.mono stumbled_append,
        fun _ => ⟨(t, st), by simp, hst⟩, by simp only [Bool.false_eq_true, if_false]; omega⟩
    · obtain ⟨more, hmore⟩ := hreads.move hmoves
      have hwork := hmoves.work_le
      rw [words_voice, isListeners_voice, List.length_append]
      refine ⟨w, more, hw, hmore.mono ?_, fun hear => earlier (hmoves.silenced hear), by omega⟩
      rintro (hstumbled | rfl)
      · exact stumbled_append hstumbled
      · exact ⟨(t, .voice pid .failRead), by simp, rfl⟩

/-- **A child that is listened to** is heard. -/
lemma exists_heard {shown : Bool} (hv : s.voice? pid = some (.start pid true shown))
    (h : History step? s later u) : ∃ v, Heard later u pid v := by
  obtain ⟨v, lines, hvoice, hreads, hsilenced, hbound⟩ := exists_reads hv h
  refine ⟨v, hvoice, ⟨lines, hreads⟩, hsilenced, fun hear => ?_, hbound⟩
  cases hmove : v.listenerMove? with
  | none => exact .inl (Voice.drained_of_listenerMove? hear hmove)
  | some m =>
    obtain ⟨hm, w, hw⟩ := Voice.exists_of_listenerMove? hmove
    exact .inr ⟨m, u.put w, hm, by simp [step?, hvoice, hw]⟩

/-- **Who is listened to**, and what comes of it. -/
theorem hearing_of_launches {command : Path} (run : History step? (.new command) before s)
    (h : s.Launches pid t) : Hearing before pid t := by
  obtain ⟨-, -, hfresh, rfl⟩ := h.spec
  have hvoices : s.voices.map Voice.pid = s.pids := run.stays
    (P := fun u => u.voices.map Voice.pid = u.pids) rfl
    fun _ next hu => (steps_of_step? next).map_pid_voices hu
  obtain ⟨shown, hvoice⟩ := voice?_launched hvoices hfresh
  refine ⟨?_, fun hnone _ _ hlater => ?_, fun hsome _ _ hlater => ?_⟩
  · rw [hears_launched hvoices hfresh, unrelieved_iff run]
    simp
  · have hheld : s.supervisor.listener.isNone = true := by
      simpa [unrelieved_iff run] using hnone
    rw [hheld] at hvoice
    exact exists_heard hvoice hlater
  · have hheld : s.supervisor.listener.isNone = false := by
      simpa using (unrelieved_iff run).1 hsome
    rw [hheld] at hvoice
    exact exists_deaf hvoice hlater

/-- What happens to the first child: it ends by itself. -/
def ending : List Step := [.start (.ok 1), .exit 1 (some 0), .record 1]

/-- The service whose first child has ended by itself. -/
def vacant : Service := (ending.foldlM step? (.new ⟨[]⟩)).getD (.new ⟨[]⟩)

lemma history_vacant : History step? (.new ⟨[]⟩) (trail step? (.new ⟨[]⟩) ending) vacant :=
  .of_foldlM rfl

/-- A child that ended by itself, and its successor. -/
theorem hearing_after_exit : ∃ before s t, History step? (.new ⟨[]⟩) before s ∧ s.Launches 2 t ∧
    Hearing before 2 t ∧ Unrelieved before :=
  ⟨_, _, _, history_vacant, ⟨rfl, rfl⟩, hearing_of_launches history_vacant ⟨rfl, rfl⟩,
    (unrelieved_iff history_vacant).2 rfl⟩

/-- **What the successor says** of a child that ended by itself is lost, and no child is given
up. -/
theorem successor_unheard : ¬ ∀ before s pid t later u v, History step? (.new ⟨[]⟩) before s →
    s.Launches pid t → History step? t later u → (∀ x ∈ later, ¬ x.1.relieves x.2) →
    u.voice? pid = some v → v.lost = [] := by
  intro h
  have hlost := h _ _ 2 _ _ _ _ history_vacant ⟨rfl, rfl⟩
    (History.single (a := .voice 2 (.say [0x61])) rfl) (by simp [relieves, discards]) rfl
  exact absurd hlost (by simp)

end ServerLink.Process.Service
