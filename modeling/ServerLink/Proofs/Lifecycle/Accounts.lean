import Mathlib
import ServerLink.Lifecycle.Manager

/-!
# A manager accounts for its connections

Activations and deactivations come in any order, with any options and surroundings, while the calls
that were issued begin and end on their own.

**Replies.**  `Manager.replies` lists what the callers of a run were told.  The connections that
were made are those that activations were told of, in order; those that deactivations were told of
come in the same order, and after them comes the one that is held.

**The invariant.**  `Manager.Sound` says this in equations between lists, and that the calls issued
are one start for each connection made and one stop for each connection given up.  `Manager.Steps`
says what an event does to a manager, and `Sound.step` goes by cases on it.

**`accounts_of_run`**: after any run, every operation does to the one connection what it promises,
and the calls that it issues are issued once and for all.
-/

namespace ServerLink.Lifecycle

/-- What the caller of an operation is told. -/
inductive Reply where
  | activation (result : Except LifecycleError Nat)
  | deactivation (stopped : Option Nat)

/-- The connection that an activation made. -/
def Reply.made? : Reply → Option Nat
  | .activation (.ok n) => some n
  | _ => none

/-- The connection that a deactivation gave up. -/
def Reply.stopped? : Reply → Option Nat
  | .deactivation n => n
  | _ => none

/-- The connections made, in order. -/
def creations (replies : List Reply) : List Nat := replies.filterMap Reply.made?

/-- The connections given up, in order. -/
def releases (replies : List Reply) : List Nat := replies.filterMap Reply.stopped?

lemma creations_append (a b : List Reply) : creations (a ++ b) = creations a ++ creations b :=
  List.filterMap_append

lemma releases_append (a b : List Reply) : releases (a ++ b) = releases a ++ releases b :=
  List.filterMap_append

namespace Manager

variable {m m' : Manager} {e : Event} {past : List Reply}

/-- The calls of connections that were issued, begun or not. -/
def issued (m : Manager) : List Call := m.begun ++ m.due

/-- What the caller of an operation is told, if the event is one. -/
def reply? (m : Manager) : Event → Option Reply
  | .activate vars c => some (.activation (m.activate vars c).result)
  | .deactivate => some (.deactivation m.deactivate.2)
  | _ => none

/-- What the callers in a run of events are told. -/
def replies (m : Manager) : List Event → List Reply
  | [] => []
  | e :: rest => (m.reply? e).toList ++ (m.step e).replies rest

/-- The configuration of the connection that an activation makes, if it builds. -/
def configFor (m : Manager) (vars : Variables) (c : Environment.Context) :
    Except ConfigError Config :=
  m.config (Environment.resolve vars c.registry).command c.workspaceRoot

/-- The held connection is given up, and its stop is due. -/
def giveUp (m : Manager) (n : Nat) : Manager :=
  { m with stage := .stopped, held := none, due := m.due ++ [.stop n] }

/-- A manager accounts for its connections, after its callers were told the replies. -/
structure Accounts (m : Manager) (replies : List Reply) : Prop where
  /-- A connection is held in the stage `started` and in no other. -/
  holds : m.held.isSome = true ↔ m.stage = .started
  /-- An activation in this stage is refused: nothing is searched for, nobody is notified, and the
  manager stays as it is. -/
  refuses : m.stage = .started → ∀ vars c,
    (m.activate vars c).result = .error .alreadyStarted ∧ (m.activate vars c).resolution = none
      ∧ Log.notices (m.activate vars c).shown = [] ∧ (m.activate vars c).manager = m
  /-- In any other it fails only for its configuration, and that leaves the manager as it is. -/
  fails : m.stage ≠ .started → ∀ vars c e, (m.activate vars c).result = .error e →
    (∃ reason, e = .config reason ∧ m.configFor vars c = .error reason)
      ∧ (m.activate vars c).manager = m
  /-- So it succeeds whenever its configuration builds. -/
  succeeds : m.stage ≠ .started → ∀ vars c config, m.configFor vars c = .ok config →
    (m.activate vars c).result = .ok m.made.length ∧ (m.activate vars c).manager = m.make config
  /-- An activation that succeeds makes one connection, a new one, and calls its start once,
  whatever comes later. -/
  activates : ∀ vars c n, (m.activate vars c).result = .ok n → m.stage ≠ .started
    ∧ n = m.made.length
    ∧ (∃ config, m.configFor vars c = .ok config ∧ (m.activate vars c).manager = m.make config)
    ∧ ∀ later, ((m.activate vars c).manager.after later).issued.count (.start n) = 1
  /-- A deactivation gives up the connection that is held and calls its stop once, whatever comes
  later. -/
  deactivates : ∀ n, m.deactivate.2 = some n → m.held = some n ∧ m.deactivate.1 = m.giveUp n
    ∧ ∀ later, (m.deactivate.1.after later).issued.count (.stop n) = 1
  /-- With none held it changes nothing. -/
  idles : m.deactivate.2 = none ↔ m.held = none ∧ m.deactivate.1 = m
  /-- The connections made are those of the activations that succeeded. -/
  created : creations replies = List.range m.made.length
  /-- Each of them was given up by one deactivation, except the one that is held. -/
  released : releases replies ++ m.held.toList = List.range m.made.length
  /-- There is one start for each activation that succeeded, one stop for each deactivation that
  gave up a connection, and no other call. -/
  calls : m.issued.Perm ((creations replies).map .start ++ (releases replies).map .stop)
  /-- Every call that is issued can begin. -/
  begins : ∀ call ∈ m.due, ∃ m', m.begin call = some m' ∧ call ∈ m'.begun
  /-- Only a call that has begun comes to an end, and to one only. -/
  ends : (m.ended.map Prod.fst).Nodup ∧ ∀ call result, (call, result) ∈ m.ended → call ∈ m.begun

/-! ## What an event does -/

/-- What an event does to a manager, and what its caller is told. -/
inductive Steps (m : Manager) : List Reply → Manager → Prop where
  | rests {told : List Reply} (hmade : creations told = []) (hstopped : releases told = []) :
      Steps m told m
  | makes (config : Config) (hstage : m.stage ≠ .started) :
      Steps m [.activation (.ok m.made.length)] (m.make config)
  | givesUp {n : Nat} (hheld : m.held = some n) : Steps m [.deactivation (some n)] (m.giveUp n)
  | begins {call : Call} (hdue : call ∈ m.due) :
      Steps m [] { m with due := m.due.erase call, begun := m.begun ++ [call] }
  | ends {call : Call} (result : Except LifecycleError Unit) (hbegun : call ∈ m.begun)
      (hopen : call ∉ m.ended.map Prod.fst) :
      Steps m [] { m with ended := m.ended ++ [(call, result)] }
  | chooses (options : Options) : Steps m [] { m with options }

section Activation

variable {vars : Variables} {c : Environment.Context}

lemma activate_started (h : m.stage = .started) : m.activate vars c =
    ⟨m, .error .alreadyStarted, none,
      [note (Log.warn "Activation requested while the client is running")]⟩ := if_pos h

lemma activate_unbuilt {reason : ConfigError} (h : m.stage ≠ .started)
    (hconfig : m.configFor vars c = .error reason) : m.activate vars c =
    ⟨m, .error (.config reason), some (Environment.resolve vars c.registry),
      (Environment.resolve vars c.registry).shown⟩ := by
  rw [configFor] at hconfig
  simp only [activate, if_neg h, hconfig]

lemma activate_built {config : Config} (h : m.stage ≠ .started)
    (hconfig : m.configFor vars c = .ok config) : m.activate vars c =
    ⟨m.make config, .ok m.made.length, some (Environment.resolve vars c.registry),
      (Environment.resolve vars c.registry).shown ++ [note (Log.info "Client activated")]⟩ := by
  rw [configFor] at hconfig
  simp only [activate, if_neg h, hconfig]

lemma activate_error {e : LifecycleError} (h : m.stage ≠ .started)
    (he : (m.activate vars c).result = .error e) :
    (∃ reason, e = .config reason ∧ m.configFor vars c = .error reason)
      ∧ (m.activate vars c).manager = m := by
  cases hconfig : m.configFor vars c with
  | error reason =>
    rw [activate_unbuilt h hconfig] at he ⊢
    cases he
    exact ⟨⟨reason, rfl, rfl⟩, rfl⟩
  | ok config =>
    rw [activate_built h hconfig] at he
    exact absurd he (by simp)

lemma activate_ok {n : Nat} (hn : (m.activate vars c).result = .ok n) : m.stage ≠ .started
    ∧ n = m.made.length
    ∧ ∃ config, m.configFor vars c = .ok config ∧ (m.activate vars c).manager = m.make config := by
  by_cases hstage : m.stage = .started
  · rw [activate_started hstage] at hn
    exact absurd hn (by simp)
  · cases hconfig : m.configFor vars c with
    | error reason =>
      rw [activate_unbuilt hstage hconfig] at hn
      exact absurd hn (by simp)
    | ok config =>
      rw [activate_built hstage hconfig] at hn ⊢
      cases hn
      exact ⟨hstage, rfl, config, rfl, rfl⟩

end Activation

lemma deactivate_none (h : m.held = none) : m.deactivate = (m, none) := by
  rw [deactivate, h]

lemma deactivate_some {n : Nat} (h : m.held = some n) : m.deactivate = (m.giveUp n, some n) := by
  rw [deactivate, h, giveUp]

lemma deactivate_ok {n : Nat} (hn : m.deactivate.2 = some n) :
    m.held = some n ∧ m.deactivate.1 = m.giveUp n := by
  cases hheld : m.held with
  | none =>
    rw [deactivate_none hheld] at hn
    exact absurd hn (by simp)
  | some k =>
    rw [deactivate_some hheld] at hn ⊢
    cases hn
    exact ⟨rfl, rfl⟩

lemma outcome?_isNone {call : Call} :
    (m.outcome? call).isNone = true ↔ call ∉ m.ended.map Prod.fst := by
  rw [outcome?, Option.isNone_map, Option.isNone_iff_eq_none, List.find?_eq_none]
  simp only [decide_eq_true_eq, List.mem_map, not_exists, not_and]

/-- **What an event does to a manager.** -/
theorem steps_of_event (m : Manager) (e : Event) : m.Steps (m.reply? e).toList (m.step e) := by
  cases e with
  | activate vars c =>
    rw [reply?, step]
    by_cases hstage : m.stage = .started
    · rw [activate_started hstage]
      exact .rests rfl rfl
    · cases hconfig : m.configFor vars c with
      | error reason =>
        rw [activate_unbuilt hstage hconfig]
        exact .rests rfl rfl
      | ok config =>
        rw [activate_built hstage hconfig]
        exact .makes config hstage
  | deactivate =>
    rw [reply?, step]
    cases hheld : m.held with
    | none =>
      rw [deactivate_none hheld]
      exact .rests rfl rfl
    | some n =>
      rw [deactivate_some hheld]
      exact .givesUp hheld
  | begin call =>
    rw [step, begin]
    split
    · exact .begins (List.contains_iff_mem.1 ‹_›)
    · exact .rests rfl rfl
  | finish call result =>
    rw [step, finish]
    split
    · rename_i h
      rw [Bool.and_eq_true, outcome?_isNone] at h
      exact .ends result (List.contains_iff_mem.1 h.1) h.2
    · exact .rests rfl rfl
  | choose options => exact .chooses options

/-! ## The invariant -/

/-- A manager whose callers were told the replies `past`. -/
structure Sound (m : Manager) (past : List Reply) : Prop where
  holds : m.held.isSome = true ↔ m.stage = .started
  created : creations past = List.range m.made.length
  released : releases past ++ m.held.toList = List.range m.made.length
  calls : m.issued.Perm ((creations past).map .start ++ (releases past).map .stop)
  ends : (m.ended.map Prod.fst).Nodup ∧ ∀ call result, (call, result) ∈ m.ended → call ∈ m.begun

lemma sound_new (options : Options) : (new options).Sound [] :=
  ⟨by simp [new], rfl, rfl, .refl _, List.nodup_nil, nofun⟩

/-- A connection is made while none is held. -/
lemma Sound.make (h : m.Sound past) (config : Config) (hstage : m.stage ≠ .started) :
    (m.make config).Sound (past ++ [.activation (.ok m.made.length)]) := by
  have hfree : m.held = none := by
    cases hheld : m.held with
    | none => rfl
    | some n => exact absurd (h.holds.1 (by simp [hheld])) hstage
  have hstopped : releases past = List.range m.made.length := by
    simpa [hfree] using h.released
  have hmade : creations (past ++ [.activation (.ok m.made.length)])
      = List.range (m.made.length + 1) := by
    rw [creations_append, h.created, List.range_succ]
    rfl
  have hsame : releases (past ++ [.activation (.ok m.made.length)])
      = releases past := by
    rw [releases_append]
    exact List.append_nil _
  refine ⟨by simp [Manager.make], ?_, ?_, ?_, h.ends⟩
  · simpa [Manager.make] using hmade
  · rw [hsame, hstopped]
    simp [Manager.make, List.range_succ]
  · rw [hsame, hmade, List.range_succ, List.map_append, ← h.created]
    have hlast : (m.make config).issued = m.issued ++ [.start m.made.length] :=
      (List.append_assoc _ _ _).symm
    rw [hlast, List.append_assoc]
    refine (h.calls.append_right _).trans ?_
    rw [List.append_assoc]
    exact List.perm_append_comm.append_left _

lemma Sound.giveUp {n : Nat} (h : m.Sound past) (hheld : m.held = some n) :
    (m.giveUp n).Sound (past ++ [.deactivation (some n)]) := by
  have hmade : creations (past ++ [.deactivation (some n)]) = creations past := by
    rw [creations_append]
    exact List.append_nil _
  have hstopped : releases (past ++ [.deactivation (some n)])
      = releases past ++ [n] := releases_append _ _
  have hlast : (m.giveUp n).issued = m.issued ++ [.stop n] := (List.append_assoc _ _ _).symm
  refine ⟨by simp [Manager.giveUp], hmade ▸ h.created, ?_, ?_, h.ends⟩
  · rw [hstopped, Manager.giveUp, Option.toList_none, List.append_nil, ← h.released, hheld]
    rfl
  · rw [hmade, hstopped, hlast, List.map_append, ← List.append_assoc]
    exact h.calls.append_right _

lemma issued_begin {call : Call} (hdue : call ∈ m.due) :
    ((m.begun ++ [call]) ++ m.due.erase call).Perm m.issued := by
  rw [List.append_assoc]
  exact (List.perm_cons_erase hdue).symm.append_left _

/-- **Every event keeps the invariant.** -/
theorem Sound.step {told : List Reply} (h : m.Sound past) (hstep : m.Steps told m') :
    m'.Sound (past ++ told) := by
  cases hstep with
  | rests hmade hstopped =>
    refine ⟨h.holds, ?_, ?_, ?_, h.ends⟩
    · rw [creations_append, hmade, List.append_nil, h.created]
    · rw [releases_append, hstopped, List.append_nil, h.released]
    · rw [creations_append, hmade, releases_append, hstopped, List.append_nil, List.append_nil]
      exact h.calls
  | makes config hstage => exact h.make config hstage
  | givesUp hheld => exact h.giveUp hheld
  | begins hdue =>
    rw [List.append_nil]
    refine ⟨h.holds, h.created, h.released, (issued_begin hdue).trans h.calls, h.ends.1, ?_⟩
    exact fun call result hmem => List.mem_append_left _ (h.ends.2 call result hmem)
  | @ends call result hbegun hopen =>
    rw [List.append_nil]
    refine ⟨h.holds, h.created, h.released, h.calls, ?_, fun other outcome hmem => ?_⟩
    · rw [List.map_append]
      exact h.ends.1.append (List.nodup_singleton call) (by simpa using hopen)
    · rcases List.mem_append.1 hmem with hmem | hmem
      · exact h.ends.2 other outcome hmem
      · cases List.mem_singleton.1 hmem
        exact hbegun
  | chooses options =>
    rw [List.append_nil]
    exact ⟨h.holds, h.created, h.released, h.calls, h.ends⟩

/-- **So does every run.** -/
theorem Sound.after (h : m.Sound past) (events : List Event) :
    (m.after events).Sound (past ++ m.replies events) := by
  induction events generalizing m past with
  | nil => simpa [Manager.after, replies] using h
  | cons e rest ih =>
    rw [replies, ← List.append_assoc]
    exact ih (h.step (m.steps_of_event e))

/-! ## What follows -/

lemma Sound.nodup_creations (h : m.Sound past) : (creations past).Nodup :=
  h.created ▸ List.nodup_range

lemma Sound.nodup_releases (h : m.Sound past) : (releases past).Nodup := by
  have hall : (releases past ++ m.held.toList).Nodup := h.released ▸ List.nodup_range
  exact hall.of_append_left

/-- The start of a connection that was made was called once. -/
lemma Sound.count_start {n : Nat} (h : m.Sound past) (hn : n ∈ creations past) :
    m.issued.count (.start n) = 1 := by
  have hinjective : Function.Injective Call.start := fun _ _ => Call.start.inj
  have hnone : ((releases past).map Call.stop).count (.start n) = 0 :=
    List.count_eq_zero.2 (by simp)
  rw [h.calls.count_eq, List.count_append, hnone, List.count_map_of_injective _ _ hinjective]
  exact List.count_eq_one_of_mem h.nodup_creations hn

/-- The stop of a connection that was given up was called once. -/
lemma Sound.count_stop {n : Nat} (h : m.Sound past) (hn : n ∈ releases past) :
    m.issued.count (.stop n) = 1 := by
  have hinjective : Function.Injective Call.stop := fun _ _ => Call.stop.inj
  have hnone : ((creations past).map Call.start).count (.stop n) = 0 :=
    List.count_eq_zero.2 (by simp)
  rw [h.calls.count_eq, List.count_append, hnone, zero_add,
    List.count_map_of_injective _ _ hinjective]
  exact List.count_eq_one_of_mem h.nodup_releases hn

/-- The start of an activation that succeeded is called once, whatever comes later. -/
lemma Sound.start_once {vars : Variables} {c : Environment.Context} {n : Nat} (h : m.Sound past)
    (hn : (m.activate vars c).result = .ok n) (later : List Event) :
    ((m.activate vars c).manager.after later).issued.count (.start n) = 1 := by
  refine ((h.step (m.steps_of_event (.activate vars c))).after later).count_start ?_
  simp [reply?, hn, creations, Reply.made?]

/-- The stop of a deactivation that gave up a connection is called once, whatever comes later. -/
lemma Sound.stop_once {n : Nat} (h : m.Sound past) (hn : m.deactivate.2 = some n)
    (later : List Event) : (m.deactivate.1.after later).issued.count (.stop n) = 1 := by
  refine ((h.step (m.steps_of_event .deactivate)).after later).count_stop ?_
  simp [reply?, hn, releases, Reply.stopped?]

lemma begin_due {call : Call} (h : call ∈ m.due) :
    ∃ m', m.begin call = some m' ∧ call ∈ m'.begun :=
  ⟨_, if_pos (List.contains_iff_mem.2 h), List.mem_append_right _ (List.mem_singleton.2 rfl)⟩

/-- **A manager accounts for its connections**, whatever has happened to it. -/
theorem accounts_of_run (options : Options) (events : List Event) :
    Accounts ((new options).after events) ((new options).replies events) := by
  have hsound : Sound ((new options).after events) ((new options).replies events) :=
    (sound_new options).after events
  generalize (new options).after events = m at hsound
  generalize (new options).replies events = past at hsound
  constructor
  case holds => exact hsound.holds
  case refuses =>
    intro hstarted vars c
    rw [activate_started hstarted]
    exact ⟨rfl, rfl, rfl, rfl⟩
  case fails =>
    intro hstage vars c e he
    exact activate_error hstage he
  case succeeds =>
    intro hstage vars c config hconfig
    rw [activate_built hstage hconfig]
    exact ⟨rfl, rfl⟩
  case activates =>
    intro vars c n hn
    obtain ⟨hstage, hnew, hmake⟩ := activate_ok hn
    exact ⟨hstage, hnew, hmake, hsound.start_once hn⟩
  case deactivates =>
    intro n hn
    obtain ⟨hheld, hgone⟩ := deactivate_ok hn
    exact ⟨hheld, hgone, hsound.stop_once hn⟩
  case idles =>
    cases hheld : m.held with
    | none => simp [deactivate_none hheld]
    | some k => simp [deactivate_some hheld]
  case created => exact hsound.created
  case released => exact hsound.released
  case calls => exact hsound.calls
  case begins => exact fun call hdue => begin_due hdue
  case ends => exact hsound.ends

/-- The start of a connection fails, an activation is refused, and a connection given up is followed
by a new one. -/
def reactivation : List Event :=
  [.activate [] ⟨.ofString "/srv/app", .empty⟩, .begin (.start 0),
    .finish (.start 0) (.error (.connection .notStarted)),
    .activate [] ⟨.ofString "/srv/app", .empty⟩, .deactivate,
    .activate [] ⟨.ofString "/srv/app", .empty⟩]

/-- Two connections are made, one is given up, and the start that failed is not called again. -/
theorem accounts_reactivation :
    Accounts ((new .none).after reactivation) ((new .none).replies reactivation)
      ∧ ((new .none).after reactivation).held = some 1
      ∧ creations ((new .none).replies reactivation) = [0, 1]
      ∧ releases ((new .none).replies reactivation) = [0]
      ∧ ((new .none).after reactivation).issued = [.start 0, .stop 0, .start 1] :=
  ⟨accounts_of_run .none reactivation, by decide +kernel, by decide +kernel, by decide +kernel,
    by decide +kernel⟩

end Manager

end ServerLink.Lifecycle
