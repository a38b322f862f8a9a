import Mathlib
import ServerLink.Environment.Command

/-!
# Searching again and again

A search asks the provider of the registry and settles for the usual place when that comes to
nothing.  The provider keeps a state of its own between searches: its activation may fail and
succeed later, and so may its answers.

**Conduct.**  `Provider.conduct` says of every provider what it is going to do, call by call.  From
that alone `Conduct.turn` tells what it says in the search with a given number, and `commandOf` the
command that follows from it.

* `turn_succ` — the next search meets what is left of the conduct after this one.
* `resolve_of_find?` — one search takes the first turn of the provider.
* `getElem?_resolveAll` — by induction, the search with number `i` takes the turn `i`.
* **`resolveAll_searches`** — what this amounts to over any number of searches, with a provider and
  without one.
-/

namespace ServerLink.Environment

variable {r : Registry} {p : Provider} {vars : Variables} {moments : List Variables} {c : Conduct}
  {i : ℕ}

/-! ## Registries -/

namespace Registry

variable {id other : String}

lemma lookup_insertEntry (entries : List (String × Provider)) :
    List.lookup other (insertEntry id p entries)
      = if other = id then some p else List.lookup other entries := by
  induction entries with
  | nil =>
    rw [insertEntry, List.lookup_cons]
    grind
  | cons entry entries ih =>
    rw [insertEntry]
    split_ifs with hsame hbefore
    all_goals simp only [List.lookup_cons, ih]
    all_goals grind

lemma find?_register_self (r : Registry) : (r.register id p).find? id = some p := by
  rw [find?, register, lookup_insertEntry, if_pos rfl]

lemma find?_register_of_ne (r : Registry) (h : other ≠ id) :
    (r.register id p).find? other = r.find? other := by
  rw [find?, register, lookup_insertEntry, if_neg h, find?]

end Registry

/-! ## What a provider is going to do -/

/-- What a provider is going to do; for the built-in one this hangs on the process environment in
which it is first activated. -/
def Provider.conduct (vars : Variables) : Provider → Conduct
  | builtIn given none =>
    .steady false none (.ok (detectInterpreter given fun name => List.lookup name vars).1)
  | builtIn _ (some snapshot) => .steady true none (.ok snapshot)
  | foreign c => c

namespace Conduct

/-- The first of the activations before the number `i` that succeeds. -/
def success? (c : Conduct) (i : ℕ) : Option ℕ :=
  (List.range i).find? fun k => (c.activations k).isNone

/-- What an active provider says in a search when it has been asked for the path `k` times. -/
def goOn (c : Conduct) (k : ℕ) : List Answer := [.isActive true, .path (c.paths k)]

/-- What a provider says in a search that activates it, when all `i` activations before failed. -/
def begin (c : Conduct) (i : ℕ) : List Answer :=
  match c.activations i with
  | none => [.isActive false, .activate none, .path (c.paths 0)]
  | some e => [.isActive false, .activate (some e)]

/-- What a provider says in the search with the number `i`. -/
def turn (c : Conduct) (i : ℕ) : List Answer :=
  if c.active then c.goOn i
  else
    match c.success? i with
    | some k => c.goOn (i - k)
    | none => c.begin i

/-- What is left of a conduct after a search. -/
def next (c : Conduct) : Conduct :=
  if c.active then c.pathAsked
  else
    match c.activations 0 with
    | none => c.activated.pathAsked
    | some _ => c.activated

lemma success?_eq_none : c.success? i = none ↔ ∀ k < i, c.activations k ≠ none := by
  simp [success?, Option.isNone_iff_eq_none]

lemma success?_succ (c : Conduct) (i : ℕ) : c.success? (i + 1) =
    if c.activations 0 = none then some 0 else (c.activated.success? i).map (· + 1) := by
  rw [success?, List.range_succ_eq_map, List.find?_cons, List.find?_map]
  cases c.activations 0 with
  | none => rfl
  | some e => rfl

lemma turn_zero (c : Conduct) : c.turn 0 = if c.active then c.goOn 0 else c.begin 0 := by
  simp [turn, success?]

/-- The next search meets what is left of the conduct. -/
lemma turn_succ (c : Conduct) (i : ℕ) : c.turn (i + 1) = c.next.turn i := by
  cases hactive : c.active with
  | true => simp [turn, next, goOn, hactive, pathAsked]
  | false =>
    cases hfirst : c.activations 0 with
    | none => simp [turn, next, goOn, hactive, hfirst, success?_succ, activated, pathAsked]
    | some e =>
      have hnext : c.next = c.activated := by simp [next, hactive, hfirst]
      have hstill : c.activated.active = false := by simp [activated, hactive, hfirst]
      have hsuccess : c.success? (i + 1) = (c.activated.success? i).map (· + 1) := by
        simp [success?_succ, hfirst]
      rw [hnext, turn, turn, hactive, hstill, hsuccess]
      cases c.activated.success? i with
      | none => rfl
      | some k => simp [goOn, activated]

end Conduct

/-! ## Conduct is what comes of asking -/

section Conduct

variable {later : Variables}

lemma isActive_eq (vars : Variables) (p : Provider) : p.isActive = (p.conduct vars).active := by
  rcases p with ⟨given, _ | snapshot⟩ | c <;> rfl

lemma path?_of_isActive (vars : Variables) (h : p.isActive = true) :
    p.path? = (p.conduct vars).paths 0 := by
  rcases p with ⟨given, _ | snapshot⟩ | c
  · cases h
  · rfl
  · rfl

lemma conduct_pathAsked (vars : Variables) (h : p.isActive = true) :
    p.pathAsked.conduct later = (p.conduct vars).pathAsked := by
  rcases p with ⟨given, _ | snapshot⟩ | c
  · cases h
  · rfl
  · rfl

lemma activate_snd (h : p.isActive = false) :
    (p.activate vars).2 = (p.conduct vars).activations 0 := by
  rcases p with ⟨given, _ | snapshot⟩ | c
  · rfl
  · cases h
  · rfl

lemma conduct_activate (h : p.isActive = false) :
    (p.activate vars).1.conduct later = (p.conduct vars).activated := by
  rcases p with ⟨given, _ | snapshot⟩ | c
  · rfl
  · cases h
  · rfl

end Conduct

/-! ## One search -/

/-- The server that an answer stands for, if it names an interpreter. -/
def commandFor : Except DiscoveryError (Option Path) → Path
  | .ok (some interpreter) => siblingOf interpreter
  | _ => fallback

/-- The server beside the interpreter in the last answer, or else the one in the usual place. -/
def commandOf (answers : List Answer) : Path :=
  match answers.getLast? with
  | some (.path found) => commandFor found
  | _ => fallback

/-- What a search comes to: a command, and what was shown on the way. -/
def Settles (found : Option Path) (shown : List Log.Shown) (command : Path) : Prop :=
  (match found with | some p => siblingOf p | none => fallback) = command ∧ Log.notices shown = []

lemma askPath_settles (p : Provider) :
    Settles (askPath p).1 (askPath p).2 (commandFor p.path?) := by
  rw [askPath]
  match p.path? with
  | .ok (some path) => exact ⟨rfl, rfl⟩
  | .ok none => exact ⟨rfl, rfl⟩
  | .error e => exact ⟨rfl, rfl⟩

lemma notices_searchNotes (given : Option Path) (lookup : String → Option Bytes) :
    Log.notices (Provider.searchNotes given lookup) = [] := by
  rw [Provider.searchNotes]
  dsimp only
  rw [Log.notices_append]
  split <;> rfl

lemma notices_told (vars : Variables) (p : Provider) : Log.notices (p.told vars) = [] := by
  rcases p with ⟨given, _ | snapshot⟩ | c
  · rw [Provider.told]
    exact notices_searchNotes ..
  · rfl
  · rfl

lemma Settles.after {found : Option Path} {shown early : List Log.Shown} {command : Path}
    (h : Settles found shown command) (hearly : Log.notices early = []) :
    Settles found (early ++ shown) command :=
  ⟨h.1, by rw [Log.notices_append, hearly, h.2, List.append_nil]⟩

/-- **What a provider is asked** is its first turn; the rest of its conduct is left, whatever the
process environment will be then. -/
lemma askProvider_spec (vars : Variables) (p : Provider) :
    (askProvider vars p).2.2.1 = (p.conduct vars).turn 0
    ∧ Settles (askProvider vars p).2.1 (askProvider vars p).2.2.2
      (commandOf ((p.conduct vars).turn 0))
    ∧ ∀ later, (askProvider vars p).1.conduct later = (p.conduct vars).next := by
  have hasked := isActive_eq vars p
  -- active already; else activated, or not
  cases hactive : p.isActive with
  | true =>
    rw [hactive] at hasked
    have hturn : (p.conduct vars).turn 0 = [.isActive true, .path p.path?] := by
      rw [Conduct.turn_zero, ← hasked, if_pos rfl, Conduct.goOn, path?_of_isActive vars hactive]
    have hnext : (p.conduct vars).next = (p.conduct vars).pathAsked := by
      simp [Conduct.next, ← hasked]
    rw [hturn, hnext, askProvider, if_pos hactive]
    exact ⟨rfl, askPath_settles p, fun later => conduct_pathAsked vars hactive⟩
  | false =>
    rw [hactive] at hasked
    have hbegun : Log.notices (note (Log.debug "Activating environment discovery") :: p.told vars)
        = [] :=
      notices_told vars p
    have hfailure : (p.activate vars).2 = (p.conduct vars).activations 0 := activate_snd hactive
    have hleft (later : Variables) :
        (p.activate vars).1.conduct later = (p.conduct vars).activated :=
      conduct_activate hactive
    rw [askProvider, if_neg (by simp [hactive])]
    generalize p.activate vars = outcome at hfailure hleft
    obtain ⟨q, failure⟩ := outcome
    cases failure with
    | none =>
      have hnow : q.isActive = true := by
        simp [isActive_eq vars q, hleft, Conduct.activated, ← hfailure]
      have hturn : (p.conduct vars).turn 0 = [.isActive false, .activate none, .path q.path?] := by
        rw [path?_of_isActive vars hnow, hleft]
        simp [Conduct.turn_zero, Conduct.begin, Conduct.activated, ← hasked, ← hfailure]
      have hnext : (p.conduct vars).next = (p.conduct vars).activated.pathAsked := by
        simp [Conduct.next, ← hasked, ← hfailure]
      rw [hturn, hnext]
      refine ⟨rfl, (askPath_settles q).after hbegun, fun later => ?_⟩
      rw [← hleft vars]
      exact conduct_pathAsked vars hnow
    | some e =>
      have hturn : (p.conduct vars).turn 0 = [.isActive false, .activate (some e)] := by
        simp [Conduct.turn_zero, Conduct.begin, ← hasked, ← hfailure]
      have hnext : (p.conduct vars).next = (p.conduct vars).activated := by
        simp [Conduct.next, ← hasked, ← hfailure]
      rw [hturn, hnext]
      refine ⟨rfl, ⟨rfl, ?_⟩, hleft⟩
      rw [Log.notices_append, hbegun]
      rfl

/-- **One search** takes the first turn of the provider and leaves the rest of its conduct. -/
lemma resolve_of_find? (vars : Variables) (h : r.find? interpreterExtension = some p) :
    (resolve vars r).said = ((p.conduct vars).turn 0).map (interpreterExtension, ·)
    ∧ (resolve vars r).command = commandOf ((p.conduct vars).turn 0)
    ∧ Log.notices (resolve vars r).shown = []
    ∧ ∃ after : Provider, (resolve vars r).registry = r.register interpreterExtension after
      ∧ ∀ later, after.conduct later = (p.conduct vars).next := by
  obtain ⟨hsaid, ⟨hcommand, hquiet⟩, hleft⟩ := askProvider_spec vars p
  rw [resolve, h]
  dsimp only
  generalize askProvider vars p = outcome at hsaid hcommand hquiet hleft
  obtain ⟨after, found, answers, shown⟩ := outcome
  refine ⟨by rw [← hsaid], hcommand, ?_, after, rfl, hleft⟩
  exact (Log.notices_append _ _).trans (by rw [hquiet]; rfl)

lemma resolve_of_missing (vars : Variables) (h : r.find? interpreterExtension = none) :
    (resolve vars r).command = fallback ∧ Log.notices (resolve vars r).shown = [missingExtension]
      ∧ (resolve vars r).said = [] ∧ (resolve vars r).registry = r := by
  rw [resolve, h]
  exact ⟨rfl, rfl, rfl, rfl⟩

/-! ## One search after another -/

lemma length_resolveAll (r : Registry) (moments : List Variables) :
    (resolveAll r moments).length = moments.length := by
  induction moments generalizing r with
  | nil => rfl
  | cons vars later ih => rw [resolveAll, List.length_cons, List.length_cons, ih]

/-- Without a provider every search ends the same way. -/
lemma resolveAll_of_missing (h : r.find? interpreterExtension = none) :
    ∀ run ∈ resolveAll r moments, run.command = fallback
      ∧ Log.notices run.shown = [missingExtension] ∧ run.said = [] ∧ run.registry = r := by
  induction moments with
  | nil => simp [resolveAll]
  | cons vars later ih =>
    obtain ⟨hcommand, hnotices, hsaid, hregistry⟩ := resolve_of_missing vars h
    rw [resolveAll, hregistry]
    intro run hrun
    rcases List.mem_cons.1 hrun with rfl | hrun
    · exact ⟨hcommand, hnotices, hsaid, hregistry⟩
    · exact ih run hrun

/-- **The search with the number `i`** takes the turn `i` of the provider; no other provider is
touched. -/
theorem getElem?_resolveAll (h : r.find? interpreterExtension = some p) {run : Resolution}
    (hrun : (resolveAll r moments)[i]? = some run) :
    run.said = ((p.conduct (moments.headD [])).turn i).map (interpreterExtension, ·)
    ∧ run.command = commandOf ((p.conduct (moments.headD [])).turn i)
    ∧ Log.notices run.shown = []
    ∧ ∀ id ≠ interpreterExtension, run.registry.find? id = r.find? id := by
  induction moments generalizing r p i with
  | nil => simp [resolveAll] at hrun
  | cons vars later ih =>
    obtain ⟨hsaid, hcommand, hquiet, after, hregistry, hleft⟩ := resolve_of_find? vars h
    rw [resolveAll] at hrun
    cases i with
    | zero =>
      obtain rfl : resolve vars r = run := by simpa using hrun
      refine ⟨hsaid, hcommand, hquiet, fun id hid => ?_⟩
      rw [hregistry, Registry.find?_register_of_ne r hid]
    | succ i =>
      rw [List.getElem?_cons_succ, hregistry] at hrun
      obtain ⟨hsaid, hcommand, hquiet, hothers⟩ := ih (Registry.find?_register_self r) hrun
      rw [hleft] at hsaid hcommand
      rw [List.headD_cons, Conduct.turn_succ]
      refine ⟨hsaid, hcommand, hquiet, fun id hid => ?_⟩
      rw [hothers id hid, Registry.find?_register_of_ne r hid]

/-! ## What a search comes to -/

/-- In a search a provider is asked once whether it is active; it is activated just if it is not,
and asked for the path just if it is or the activation succeeded.  The command is beside that path,
or else in the usual place. -/
structure Orderly (answers : List Answer) (command : Path) : Prop where
  once : (answers.map Answer.question).Nodup ∧ .isActive ∈ answers.map Answer.question
  activates : .activate ∈ answers.map Answer.question ↔ .isActive false ∈ answers
  asks : .path ∈ answers.map Answer.question ↔ .isActive true ∈ answers ∨ .activate none ∈ answers
  finds : ∀ interpreter, .path (.ok (some interpreter)) ∈ answers → command = siblingOf interpreter
  falls : (∀ interpreter, .path (.ok (some interpreter)) ∉ answers) → command = fallback

lemma commandFor_cases (found : Except DiscoveryError (Option Path)) :
    (∃ interpreter, found = .ok (some interpreter) ∧ commandFor found = siblingOf interpreter)
      ∨ (∀ interpreter, found ≠ .ok (some interpreter)) ∧ commandFor found = fallback := by
  match found with
  | .ok (some interpreter) => exact .inl ⟨interpreter, rfl, rfl⟩
  | .ok none => exact .inr ⟨nofun, rfl⟩
  | .error e => exact .inr ⟨nofun, rfl⟩

/-- A search that ends with a question for the path has the command that the answer stands for. -/
lemma orderly_path {found : Except DiscoveryError (Option Path)} {answers : List Answer}
    (h : answers = [.isActive true] ∨ answers = [.isActive false, .activate none]) :
    Orderly (answers ++ [.path found]) (commandOf (answers ++ [.path found])) := by
  have hcommand : commandOf (answers ++ [.path found]) = commandFor found := by simp [commandOf]
  rw [hcommand]
  rcases h with rfl | rfl
  all_goals
    refine ⟨by simp [Answer.question], by simp [Answer.question], by simp [Answer.question], ?_, ?_⟩
    · intro interpreter hfound
      obtain rfl : .ok (some interpreter) = found := by simpa using hfound
      rfl
    · intro hnone
      rcases commandFor_cases found with ⟨interpreter, rfl, -⟩ | ⟨-, hfallback⟩
      · exact absurd (hnone interpreter) (by simp)
      · exact hfallback

lemma orderly_turn (c : Conduct) (i : ℕ) : Orderly (c.turn i) (commandOf (c.turn i)) := by
  have hgoOn (k : ℕ) : Orderly (c.goOn k) (commandOf (c.goOn k)) := orderly_path (.inl rfl)
  have hbegin : Orderly (c.begin i) (commandOf (c.begin i)) := by
    rw [Conduct.begin]
    cases c.activations i with
    | none => exact orderly_path (.inr rfl)
    | some e =>
      exact ⟨by simp [Answer.question], by simp [Answer.question], by simp [Answer.question],
        by simp, fun _ => rfl⟩
  rw [Conduct.turn]
  split_ifs
  · exact hgoOn i
  · cases c.success? i with
    | none => exact hbegin
    | some k => exact hgoOn (i - k)

/-- The provider is activated until that has succeeded. -/
lemma activate_mem_turn (c : Conduct) (i : ℕ) : .activate ∈ (c.turn i).map Answer.question ↔
    c.active = false ∧ ∀ k < i, c.activations k ≠ none := by
  rw [← Conduct.success?_eq_none, Conduct.turn]
  cases hactive : c.active with
  | true => simp [Conduct.goOn, Answer.question]
  | false =>
    cases hsuccess : c.success? i with
    | some k => simp [Conduct.goOn, Answer.question]
    | none => cases hi : c.activations i <;> simp [Conduct.begin, Answer.question, hi]

/-- What comes of searches at one moment after another, on one registry. -/
structure Searches (r : Registry) (moments : List Variables) : Prop where
  /-- There is one for each moment. -/
  length : (resolveAll r moments).length = moments.length
  /-- Without the provider each falls back and notifies the user once, and nobody is asked. -/
  missing : r.find? interpreterExtension = none → ∀ run ∈ resolveAll r moments,
    run.command = fallback ∧ Log.notices run.shown = [missingExtension] ∧ run.said = []
  /-- With it none notifies the user, and each asks what it has to. -/
  orderly : r.find? interpreterExtension ≠ none → ∀ run ∈ resolveAll r moments,
    Log.notices run.shown = [] ∧ Orderly (run.said.map Prod.snd) run.command
  /-- What the provider says in the search with the number `i` is known from its conduct. -/
  turns : ∀ p, r.find? interpreterExtension = some p →
    ∀ i run, (resolveAll r moments)[i]? = some run →
    run.said.map Prod.snd = (p.conduct (moments.headD [])).turn i
  /-- That search activates it just if it was not active at first and no activation before has
  succeeded. -/
  activates : ∀ p, r.find? interpreterExtension = some p → ∀ i run,
    (resolveAll r moments)[i]? = some run →
      (.activate ∈ run.said.map (·.2.question) ↔ p.isActive = false
        ∧ ∀ k < i, (p.conduct (moments.headD [])).activations k ≠ none)
  /-- Providers of other names are not asked and stay what they are. -/
  others : ∀ run ∈ resolveAll r moments, (∀ x ∈ run.said, x.1 = interpreterExtension)
    ∧ ∀ id ≠ interpreterExtension, run.registry.find? id = r.find? id

/-- **Any number of searches** on one registry: what is asked of whom, what is found, and what the
user sees of it. -/
theorem resolveAll_searches (r : Registry) (moments : List Variables) : Searches r moments where
  length := length_resolveAll r moments
  missing h run hrun := by
    obtain ⟨hcommand, hnotices, hsaid, -⟩ := resolveAll_of_missing h run hrun
    exact ⟨hcommand, hnotices, hsaid⟩
  orderly h run hrun := by
    obtain ⟨p, hp⟩ := Option.ne_none_iff_exists'.1 h
    obtain ⟨i, hi⟩ := List.mem_iff_getElem?.1 hrun
    obtain ⟨hsaid, hcommand, hquiet, -⟩ := getElem?_resolveAll hp hi
    rw [hsaid, hcommand, List.map_map, Function.comp_def, List.map_id']
    exact ⟨hquiet, orderly_turn _ i⟩
  turns p hp i run hrun := by
    rw [(getElem?_resolveAll hp hrun).1, List.map_map, Function.comp_def, List.map_id']
  activates p hp i run hrun := by
    rw [(getElem?_resolveAll hp hrun).1, List.map_map, isActive_eq (moments.headD []) p]
    exact activate_mem_turn _ i
  others run hrun := by
    cases hp : r.find? interpreterExtension with
    | none =>
      obtain ⟨-, -, hsaid, hregistry⟩ := resolveAll_of_missing hp run hrun
      rw [hsaid, hregistry]
      exact ⟨by simp, fun _ _ => rfl⟩
    | some p =>
      obtain ⟨i, hi⟩ := List.mem_iff_getElem?.1 hrun
      obtain ⟨hsaid, -, -, hothers⟩ := getElem?_resolveAll hp hi
      refine ⟨fun x hx => ?_, hothers⟩
      rw [hsaid] at hx
      obtain ⟨answer, -, rfl⟩ := List.mem_map.1 hx
      rfl

end ServerLink.Environment
