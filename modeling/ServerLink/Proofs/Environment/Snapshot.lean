import Mathlib
import ServerLink.Environment.Provider
import ServerLink.Proofs.Path.Parent

/-!
# The snapshot of the built-in provider

The built-in provider looks at the process environment when it is first activated and never again.
What it says later is what it saw then, although the process environment goes on to change.

**Looking up.**  `detectInterpreter` tells which variables it asked, and `Provider.lookedUp`
collects them over a past.  These are no mere labels: by `ask_congr` two process environments that
agree on what is looked up for a question get the same answer, and leave the same provider.

* `firstSet_of_set`, `firstSet_of_unset` — the first variable that says something decides, and none
  behind it is looked up.
* `after_of_ready` — by induction over the past, a provider that needs nothing for its answers stays
  what it is.  Both ends of a past are of this kind: what precedes the first activation
  (`after_of_not_mem`) and what follows it (`after_activate`).
* **`builtIn_snapshots`** — what the provider says after any past, and what was looked up on the
  way.
-/

namespace ServerLink.Environment

open ServerLink.Path (IsName components_join_name)

variable {given snapshot : Option Path} {vars : Variables} {p : Provider} {past : List Happening}
  {lookup other : String → Option Bytes}

/-! ## The interpreter that is detected -/

/-- A variable that says nothing: it is not set, or its value is empty. -/
def Silent (lookup : String → Option Bytes) (name : String) : Prop :=
  ∀ value, lookup name = some value → value = []

lemma firstSet_cons_of_silent {name : String} (h : Silent lookup name) (names : List String) :
    firstSet lookup (name :: names)
      = ((firstSet lookup names).1, name :: (firstSet lookup names).2) := by
  rw [firstSet]
  split
  · next b bs hset => cases h _ hset
  · rfl

lemma firstSet_cons_of_set {name : String} {value : Bytes} (h : lookup name = some value)
    (hne : value ≠ []) (names : List String) :
    firstSet lookup (name :: names) = (some value, [name]) := by
  obtain ⟨b, bs, rfl⟩ := List.exists_cons_of_ne_nil hne
  rw [firstSet, h]

/-- The first variable that is set decides, and none behind it is looked up. -/
lemma firstSet_of_set (before : List String) {name : String} {value : Bytes}
    (hbefore : ∀ n ∈ before, Silent lookup n) (h : lookup name = some value) (hne : value ≠ [])
    (after : List String) :
    firstSet lookup (before ++ name :: after) = (some value, before ++ [name]) := by
  induction before with
  | nil => exact firstSet_cons_of_set h hne after
  | cons n before ih =>
    obtain ⟨hn, hbefore⟩ := List.forall_mem_cons.1 hbefore
    rw [List.cons_append, firstSet_cons_of_silent hn, ih hbefore, List.cons_append]

/-- All are looked up when none is set. -/
lemma firstSet_of_unset {names : List String} (h : ∀ n ∈ names, Silent lookup n) :
    firstSet lookup names = (none, names) := by
  induction names with
  | nil => rfl
  | cons n names ih =>
    obtain ⟨hn, hnames⟩ := List.forall_mem_cons.1 h
    rw [firstSet_cons_of_silent hn, ih hnames]

lemma firstSet_congr {names : List String}
    (h : ∀ n ∈ (firstSet lookup names).2, lookup n = other n) :
    firstSet lookup names = firstSet other names := by
  induction names with
  | nil => rfl
  | cons n names ih =>
    by_cases hn : Silent lookup n
    · rw [firstSet_cons_of_silent hn] at h ⊢
      obtain ⟨hsame, hnames⟩ := List.forall_mem_cons.1 h
      have hn' : Silent other n := by rwa [Silent, ← hsame]
      rw [firstSet_cons_of_silent hn', ih hnames]
    · obtain ⟨value, hvalue, hne⟩ : ∃ value, lookup n = some value ∧ value ≠ [] := by
        simpa [Silent] using hn
      rw [firstSet_cons_of_set hvalue hne] at h ⊢
      rw [firstSet_cons_of_set ((h n (List.mem_singleton_self n)).symm.trans hvalue) hne]

lemma detectInterpreter_congr (h : ∀ n ∈ (detectInterpreter given lookup).2, lookup n = other n) :
    detectInterpreter given lookup = detectInterpreter given other := by
  cases given with
  | some p => rfl
  | none =>
    have hset : firstSet lookup environmentVariables = firstSet other environmentVariables :=
      firstSet_congr h
    rw [detectInterpreter, detectInterpreter, hset]

/-- The interpreter of an environment is two components below the directory. -/
lemma components_interpreterIn (directory : Path) : (interpreterIn directory).components
    = directory.components ++ [.name (Utf8.ofString "bin"), .name (Utf8.ofString "python")] := by
  have hbin : IsName (Utf8.ofString "bin") := by decide +kernel
  have hpython : IsName (Utf8.ofString "python") := by decide +kernel
  rw [interpreterIn, Path.ofString, Path.ofString, components_join_name _ hpython,
    components_join_name _ hbin, List.append_assoc, List.singleton_append]

/-- What is detected, and which variables are looked up for it. -/
structure Detects (given : Option Path) (lookup : String → Option Bytes) : Prop where
  /-- An interpreter that is given is taken without a look at any variable. -/
  explicit : ∀ interpreter, given = some interpreter →
    detectInterpreter given lookup = (some interpreter, [])
  /-- Otherwise `VIRTUAL_ENV` decides if it says something; the other one is not looked up. -/
  first : given = none → ∀ value, lookup "VIRTUAL_ENV" = some value → value ≠ [] →
    detectInterpreter given lookup = (some (interpreterIn ⟨value⟩), ["VIRTUAL_ENV"])
  /-- If it does not, then `CONDA_PREFIX` does. -/
  second : given = none → Silent lookup "VIRTUAL_ENV" →
    ∀ value, lookup "CONDA_PREFIX" = some value → value ≠ [] →
      detectInterpreter given lookup
        = (some (interpreterIn ⟨value⟩), ["VIRTUAL_ENV", "CONDA_PREFIX"])
  /-- There is no interpreter when neither does. -/
  neither : given = none → Silent lookup "VIRTUAL_ENV" → Silent lookup "CONDA_PREFIX" →
    detectInterpreter given lookup = (none, ["VIRTUAL_ENV", "CONDA_PREFIX"])

lemma detects (given : Option Path) (lookup : String → Option Bytes) : Detects given lookup where
  explicit := by
    rintro interpreter rfl
    rfl
  first := by
    rintro rfl value hvalue hne
    rw [detectInterpreter, environmentVariables, firstSet_cons_of_set hvalue hne]
    rfl
  second := by
    rintro rfl hsilent value hvalue hne
    have hset := firstSet_of_set ["VIRTUAL_ENV"] (by simpa using hsilent) hvalue hne []
    rw [List.singleton_append] at hset
    rw [detectInterpreter, environmentVariables, hset]
    rfl
  neither := by
    rintro rfl hfirst hsecond
    rw [detectInterpreter, firstSet_of_unset (by simp [environmentVariables, hfirst, hsecond])]
    rfl

/-! ## One question -/

/-- **A question hangs on nothing but what is looked up for it.** -/
theorem ask_congr {now : Variables} {q : Question}
    (h : ∀ name ∈ p.consults vars q, List.lookup name vars = List.lookup name now) :
    p.ask vars q = p.ask now q := by
  rcases p with ⟨given, _ | snapshot⟩ | c
  · cases q with
    | isActive => rfl
    | path => rfl
    | activate =>
      have hsame : detectInterpreter given (fun name => List.lookup name vars)
          = detectInterpreter given fun name => List.lookup name now := detectInterpreter_congr h
      rw [Provider.ask, Provider.ask, Provider.activate, Provider.activate, hsame]
  · cases q <;> rfl
  · cases q <;> rfl

/-- A question to which a provider has its answer at hand: asking changes nothing and looks nothing
up. -/
def Ready (p : Provider) (q : Question) : Prop :=
  ∀ vars, (p.ask vars q).1 = p ∧ p.consults vars q = []

lemma ready_of_snapshot (q : Question) : Ready (.builtIn given (some snapshot)) q := by
  intro vars
  cases q <;> exact ⟨rfl, rfl⟩

lemma ready_of_ne_activate {q : Question} (h : q ≠ .activate) : Ready (.builtIn given none) q := by
  intro vars
  cases q with
  | activate => exact absurd rfl h
  | isActive => exact ⟨rfl, rfl⟩
  | path => exact ⟨rfl, rfl⟩

/-! ## A past -/

/-- The variables that are looked up while things happen, one after another. -/
def Provider.lookedUp (vars : Variables) (p : Provider) : List Happening → List String
  | [] => []
  | .change now :: past => p.lookedUp now past
  | .ask q :: past => p.consults vars q ++ (p.ask vars q).1.lookedUp vars past

lemma after_append (vars : Variables) (p : Provider) (early late : List Happening) :
    p.after vars (early ++ late)
      = (p.after vars early).2.after (p.after vars early).1 late := by
  rw [Provider.after, List.foldl_append]
  rfl

lemma lookedUp_append (vars : Variables) (p : Provider) (early late : List Happening) :
    p.lookedUp vars (early ++ late)
      = p.lookedUp vars early ++ (p.after vars early).2.lookedUp (p.after vars early).1 late := by
  induction early generalizing vars p with
  | nil => rfl
  | cons h early ih =>
    cases h with
    | change now => exact ih now p
    | ask q =>
      rw [List.cons_append, Provider.lookedUp, Provider.lookedUp, ih, List.append_assoc]
      rfl

/-- **Nothing changes** a provider that is ready for every question of the past. -/
theorem after_of_ready (vars : Variables) (h : ∀ q, .ask q ∈ past → Ready p q) :
    (p.after vars past).2 = p ∧ p.lookedUp vars past = [] := by
  induction past generalizing vars with
  | nil => exact ⟨rfl, rfl⟩
  | cons first past ih =>
    have hpast (now : Variables) := ih now fun q hq => h q (List.mem_cons_of_mem _ hq)
    cases first with
    | change now => exact hpast now
    | ask q =>
      obtain ⟨hkept, hnothing⟩ := h q List.mem_cons_self vars
      rw [Provider.lookedUp, Provider.after, List.foldl_cons, Provider.step, hkept, hnothing]
      exact hpast vars

/-- **Until it is activated** the built-in provider stays as it was made. -/
theorem after_of_not_mem (given : Option Path) (vars : Variables) (h : .ask .activate ∉ past) :
    (Provider.after vars (.builtIn given none) past).2 = .builtIn given none
    ∧ Provider.lookedUp vars (.builtIn given none) past = [] :=
  after_of_ready vars fun _ hq => ready_of_ne_activate fun heq => h (heq ▸ hq)

/-- **Its first activation** takes the snapshot, which is never replaced. -/
theorem after_activate (given : Option Path) (vars : Variables) {early : List Happening}
    (h : .ask .activate ∉ early) (late : List Happening) :
    let moment := (Provider.after vars (.builtIn given none) early).1
    let seen := detectInterpreter given fun name => List.lookup name moment
    let past := early ++ .ask .activate :: late
    (Provider.after vars (.builtIn given none) past).2 = .builtIn given (some seen.1)
    ∧ Provider.lookedUp vars (.builtIn given none) past = seen.2 := by
  intro moment seen past
  obtain ⟨hearly, hnothing⟩ := after_of_not_mem given vars h
  have hlate : (Provider.after moment (.builtIn given (some seen.1)) late).2
        = .builtIn given (some seen.1)
      ∧ Provider.lookedUp moment (.builtIn given (some seen.1)) late = [] :=
    after_of_ready moment fun q _ => ready_of_snapshot q
  rw [after_append, lookedUp_append, hearly, hnothing]
  refine ⟨hlate.1, ?_⟩
  calc [] ++ Provider.lookedUp moment (.builtIn given none) (.ask .activate :: late)
      = seen.2 ++ Provider.lookedUp moment (.builtIn given (some seen.1)) late := rfl
    _ = seen.2 := by rw [hlate.2, List.append_nil]

/-- What the built-in provider says after anything that happened to it. -/
structure Snapshots (given : Option Path) (vars : Variables) : Prop where
  /-- Until it is activated it is not active, knows no path, and looks nothing up. -/
  before : ∀ past, .ask .activate ∉ past → ∀ now,
    ((Provider.after vars (.builtIn given none) past).2.ask now .isActive).2 = .isActive false
    ∧ ((Provider.after vars (.builtIn given none) past).2.ask now .path).2
        = .path (.error .notActivated)
    ∧ Provider.lookedUp vars (.builtIn given none) past = []
  /-- From its first activation on it is active and says what was detected at that moment, whatever
  happens later; all that is ever looked up was looked up then. -/
  since : ∀ early late, .ask .activate ∉ early →
    let moment := (Provider.after vars (.builtIn given none) early).1
    let seen := detectInterpreter given fun name => List.lookup name moment
    let past := early ++ .ask .activate :: late
    ∀ now, ((Provider.after vars (.builtIn given none) past).2.ask now .isActive).2 = .isActive true
      ∧ ((Provider.after vars (.builtIn given none) past).2.ask now .path).2 = .path (.ok seen.1)
      ∧ Provider.lookedUp vars (.builtIn given none) past = seen.2
  /-- Which interpreter is detected. -/
  detects : ∀ lookup, Detects given lookup
  /-- It is below the directory of the environment. -/
  below : ∀ directory, (interpreterIn directory).components
    = directory.components ++ [.name (Utf8.ofString "bin"), .name (Utf8.ofString "python")]
  /-- No question hangs on a variable that is not looked up for it. -/
  hangs : ∀ past now later q,
    (∀ name ∈ (Provider.after vars (.builtIn given none) past).2.consults now q,
      List.lookup name now = List.lookup name later) →
    (Provider.after vars (.builtIn given none) past).2.ask now q
      = (Provider.after vars (.builtIn given none) past).2.ask later q

/-- **The built-in provider looks once**, when it is first activated, whatever happens before and
after. -/
theorem builtIn_snapshots (given : Option Path) (vars : Variables) : Snapshots given vars where
  before past h now := by
    obtain ⟨hafter, hnothing⟩ := after_of_not_mem given vars h
    rw [hafter]
    exact ⟨rfl, rfl, hnothing⟩
  since early late h := by
    obtain ⟨hafter, hlooked⟩ := after_activate given vars h late
    intro moment seen past now
    rw [hafter]
    exact ⟨rfl, rfl, hlooked⟩
  detects := detects given
  below := components_interpreterIn
  hangs past now later q h := ask_congr h

end ServerLink.Environment
