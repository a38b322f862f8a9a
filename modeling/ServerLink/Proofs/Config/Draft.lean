import Mathlib
import ServerLink.Proofs.Glob.Ending

/-!
# A configuration in the making

Fields are set in any order and any number of times before the configuration is built, and nothing
is checked until then.  So what is built hangs on the last value of each field, and on nothing else
that was said on the way.

* `Field`, `Field.Value` — the fields, and what each holds; `Setting.field`, `Setting.value` take a
  setting apart, and `Field.usual` is what a field holds that was never set.
* `latest?` — the last value that a field was given.
* **`get_setAll`** — by induction over the settings, a field holds the last value it was given.
* `Verdict` — what is built of values for all fields: the first check that fails decides.
* **`last_setting_counts`** — both together, for every run of settings.
-/

namespace ServerLink.Config

open ServerLink.Glob

/-! ## Fields -/

/-- A field that can be set. -/
inductive Field where
  | workingDirectory
  | selector
  | watch
  | startTimeout
  | requestTimeout
  | clientName
  | clientVersion
  | watchDelay
deriving DecidableEq

/-- What a field holds. -/
abbrev Field.Value : Field → Type
  | workingDirectory => Option Path
  | selector => Selector
  | startTimeout | requestTimeout | watchDelay => Duration
  | watch | clientName | clientVersion => String

/-- What a field holds that was never set. -/
def Field.usual : (f : Field) → f.Value
  | workingDirectory => none
  | selector => ⟨some "file", some "toml"⟩
  | watch => "**/*.toml"
  | startTimeout => ⟨30 * 1000000000⟩
  | requestTimeout => ⟨10 * 1000000000⟩
  | clientName => "confit-client"
  | clientVersion => "0.1.0"
  | watchDelay => ⟨200 * 1000000⟩

/-- The field that a setting is for. -/
def Setting.field : Setting → Field
  | workingDirectory _ => .workingDirectory
  | selector _ => .selector
  | watch _ => .watch
  | startTimeout _ => .startTimeout
  | requestTimeout _ => .requestTimeout
  | clientName _ => .clientName
  | clientVersion _ => .clientVersion
  | watchDelay _ => .watchDelay

/-- What a setting has its field hold. -/
def Setting.value : (s : Setting) → s.field.Value
  | workingDirectory p => some p
  | selector s => s
  | watch pattern => pattern
  | startTimeout t => t
  | requestTimeout t => t
  | clientName s => s
  | clientVersion s => s
  | watchDelay t => t

/-- What a setting has a field hold, if it is for this field. -/
def Setting.for? (s : Setting) (f : Field) : Option f.Value :=
  if h : s.field = f then some (h ▸ s.value) else none

/-- The last value that a field was given. -/
def latest? (f : Field) : List Setting → Option f.Value
  | [] => none
  | s :: later => (latest? f later).or (s.for? f)

/-- What a field holds in the end. -/
def settled (settings : List Setting) (f : Field) : f.Value := (latest? f settings).getD f.usual

/-- What a field of a draft holds. -/
def Draft.get (d : Draft) : (f : Field) → f.Value
  | .workingDirectory => d.workingDirectory
  | .selector => d.selector
  | .watch => d.watch
  | .startTimeout => d.startTimeout
  | .requestTimeout => d.requestTimeout
  | .clientName => d.clientName
  | .clientVersion => d.clientVersion
  | .watchDelay => d.watchDelay

variable {d e : Draft} {s t : Setting} {settings : List Setting} {command workspaceRoot : Path}

lemma for?_of_ne {f : Field} (h : s.field ≠ f) : s.for? f = none := dif_neg h

lemma isSome_for? (s : Setting) : (s.for? s.field).isSome := by
  rw [Setting.for?, dif_pos rfl]
  rfl

/-- **A setting touches its own field** and no other. -/
lemma get_set (d : Draft) (s : Setting) (f : Field) :
    (d.set s).get f = (s.for? f).getD (d.get f) := by
  cases s <;> cases f <;> rfl

lemma places_set (d : Draft) (s : Setting) :
    (d.set s).command = d.command ∧ (d.set s).workspaceRoot = d.workspaceRoot := by
  cases s <;> exact ⟨rfl, rfl⟩

/-- **A field holds the last value it was given.** -/
theorem get_setAll (d : Draft) (settings : List Setting) (f : Field) :
    (d.setAll settings).get f = (latest? f settings).getD (d.get f) := by
  induction settings generalizing d with
  | nil => rfl
  | cons s later ih =>
    rw [Draft.setAll, List.foldl_cons, ← Draft.setAll, ih, get_set, latest?]
    cases latest? f later <;> rfl

lemma places_setAll (d : Draft) (settings : List Setting) :
    (d.setAll settings).command = d.command
    ∧ (d.setAll settings).workspaceRoot = d.workspaceRoot := by
  induction settings generalizing d with
  | nil => exact ⟨rfl, rfl⟩
  | cons s later ih =>
    obtain ⟨hcommand, hroot⟩ := places_set d s
    exact ⟨(ih _).1.trans hcommand, (ih _).2.trans hroot⟩

/-- A draft is what its fields hold. -/
lemma ext_get (hcommand : d.command = e.command) (hroot : d.workspaceRoot = e.workspaceRoot)
    (h : ∀ f, d.get f = e.get f) : d = e := by
  obtain ⟨⟩ := d
  obtain ⟨⟩ := e
  simp only [Draft.mk.injEq]
  exact ⟨hcommand, hroot, h .workingDirectory, h .selector, h .watch, h .startTimeout,
    h .requestTimeout, h .clientName, h .clientVersion, h .watchDelay⟩

lemma get_draft (command workspaceRoot : Path) (f : Field) :
    (draft command workspaceRoot).get f = f.usual := by
  cases f <;> rfl

/-! ## The last value -/

lemma latest?_append (f : Field) (early late : List Setting) :
    latest? f (early ++ late) = (latest? f late).or (latest? f early) := by
  induction early with
  | nil => simp [latest?]
  | cons s early ih => rw [List.cons_append, latest?, ih, latest?, Option.or_assoc]

/-- Two settings of different fields say the same in either order. -/
lemma latest?_swap (h : s.field ≠ t.field) (f : Field) (front back : List Setting) :
    latest? f (front ++ t :: s :: back) = latest? f (front ++ s :: t :: back) := by
  have hone : s.for? f = none ∨ t.for? f = none := by
    by_cases hs : s.field = f
    · exact .inr (for?_of_ne fun ht => h (hs.trans ht.symm))
    · exact .inl (for?_of_ne hs)
  rw [latest?_append, latest?_append]
  rcases hone with hnone | hnone <;> simp [latest?, hnone]

/-- What is set again later need not have been said. -/
lemma latest?_overwritten (h : s.field = t.field) (f : Field) (front middle back : List Setting) :
    latest? f (front ++ (middle ++ t :: back))
      = latest? f (front ++ s :: (middle ++ t :: back)) := by
  rw [latest?_append f front, latest?_append f front, latest?.eq_2]
  by_cases hs : s.field = f
  · obtain ⟨v, hv⟩ : ∃ v, t.for? f = some v :=
      Option.isSome_iff_exists.1 (hs ▸ h ▸ isSome_for? t)
    have hlater : (latest? f (middle ++ t :: back)).isSome := by
      rw [latest?_append, latest?, hv]
      simp
    obtain ⟨w, hw⟩ := Option.isSome_iff_exists.1 hlater
    rw [hw]
    rfl
  · rw [for?_of_ne hs, Option.or_none]

/-! ## What is built -/

/-- A selector that leaves some document out. -/
def Constrains (s : Selector) : Prop := s.scheme ≠ none ∨ s.language ≠ none

/-- Timeouts within their bounds, to the nanosecond. -/
structure Timely (start request : Duration) : Prop where
  positive : 0 < start.nanoseconds
  bounded : start.nanoseconds ≤ 300 * 1000000000
  requestPositive : 0 < request.nanoseconds

/-- A configuration that has what the fields hold. -/
structure Completes (command workspaceRoot : Path) (held : (f : Field) → f.Value) (c : Config) :
    Prop where
  command : c.command = command
  workspaceRoot : c.workspaceRoot = workspaceRoot
  workingDirectory : c.workingDirectory = held .workingDirectory
  selector : c.selector = held .selector
  watch : Pattern.ofText (held .watch) = .ok c.watch
  startTimeout : c.startTimeout = held .startTimeout
  requestTimeout : c.requestTimeout = held .requestTimeout
  clientName : c.clientName = held .clientName
  clientVersion : c.clientVersion = held .clientVersion
  watchDelay : c.watchDelay = held .watchDelay

/-- What comes of values for all fields.  The checks stand in their order: each field of this
structure says what happens when the checks before are passed. -/
structure Verdict (command workspaceRoot : Path) (held : (f : Field) → f.Value)
    (outcome : Except ConfigError Config) : Prop where
  zeroStart : (held .startTimeout).nanoseconds = 0 → outcome = .error
    (.badTimeout (held .startTimeout) "initialization timeout must be greater than zero")
  longStart : 300 * 1000000000 < (held .startTimeout).nanoseconds → outcome = .error
    (.badTimeout (held .startTimeout) "initialization timeout exceeds 300s")
  zeroRequest : 0 < (held .startTimeout).nanoseconds →
    (held .startTimeout).nanoseconds ≤ 300 * 1000000000 → (held .requestTimeout).nanoseconds = 0 →
    outcome = .error
      (.badTimeout (held .requestTimeout) "request timeout must be greater than zero")
  allowsAll : Timely (held .startTimeout) (held .requestTimeout) → ¬ Constrains (held .selector) →
    outcome = .error (.badSelector "selector must constrain scheme or language")
  badPattern : Timely (held .startTimeout) (held .requestTimeout) → Constrains (held .selector) →
    ∀ fault, Pattern.ofText (held .watch) = .error fault →
      outcome = .error (.badPattern (held .watch) (fault.message (held .watch)))
  complete : Timely (held .startTimeout) (held .requestTimeout) → Constrains (held .selector) →
    ∀ pattern, Pattern.ofText (held .watch) = .ok pattern →
      ∃ c, outcome = .ok c ∧ Completes command workspaceRoot held c

lemma isZero_iff {t : Duration} : t.isZero = true ↔ t.nanoseconds = 0 := beq_iff_eq

lemma longestStart_nanoseconds : longestStart.nanoseconds = 300 * 1000000000 := rfl

lemma build_of_badTimeout? {fault : ConfigError} (h : d.badTimeout? = some fault) :
    d.build = .error fault := by
  rw [Draft.build, h]

lemma build_of_zeroStart (h : d.startTimeout.nanoseconds = 0) : d.build = .error
    (.badTimeout d.startTimeout "initialization timeout must be greater than zero") :=
  build_of_badTimeout? (by rw [Draft.badTimeout?, if_pos (isZero_iff.2 h)])

lemma build_of_longStart (h : 300 * 1000000000 < d.startTimeout.nanoseconds) : d.build = .error
    (.badTimeout d.startTimeout "initialization timeout exceeds 300s") := by
  have hpositive : 0 < d.startTimeout.nanoseconds := (Nat.zero_le _).trans_lt h
  rw [← longestStart_nanoseconds] at h
  refine build_of_badTimeout? ?_
  rw [Draft.badTimeout?, if_neg (mt isZero_iff.1 hpositive.ne'), if_pos h]

lemma build_of_zeroRequest (hpositive : 0 < d.startTimeout.nanoseconds)
    (hbounded : d.startTimeout.nanoseconds ≤ 300 * 1000000000)
    (h : d.requestTimeout.nanoseconds = 0) : d.build = .error
    (.badTimeout d.requestTimeout "request timeout must be greater than zero") := by
  rw [← longestStart_nanoseconds, ← Nat.not_lt] at hbounded
  refine build_of_badTimeout? ?_
  rw [Draft.badTimeout?, if_neg (mt isZero_iff.1 hpositive.ne'), if_neg hbounded,
    if_pos (isZero_iff.2 h)]

lemma badTimeout?_of_timely (h : Timely d.startTimeout d.requestTimeout) :
    d.badTimeout? = none := by
  have hbounded := h.bounded
  rw [← longestStart_nanoseconds, ← Nat.not_lt] at hbounded
  rw [Draft.badTimeout?, if_neg (mt isZero_iff.1 h.positive.ne'), if_neg hbounded,
    if_neg (mt isZero_iff.1 h.requestPositive.ne')]

lemma isNone_iff_not_constrains (s : Selector) :
    (s.scheme.isNone && s.language.isNone) = true ↔ ¬ Constrains s := by
  simp [Constrains]

lemma build_of_open (htimely : Timely d.startTimeout d.requestTimeout)
    (h : ¬ Constrains d.selector) :
    d.build = .error (.badSelector "selector must constrain scheme or language") := by
  rw [Draft.build, badTimeout?_of_timely htimely]
  exact if_pos ((isNone_iff_not_constrains _).2 h)

/-- Behind the other checks it is the pattern that decides. -/
lemma build_of_constrains (htimely : Timely d.startTimeout d.requestTimeout)
    (h : Constrains d.selector) : d.build = (readPattern d.watch).map fun watch =>
      { command := d.command, workingDirectory := d.workingDirectory
        workspaceRoot := d.workspaceRoot, selector := d.selector, watch
        startTimeout := d.startTimeout, requestTimeout := d.requestTimeout
        clientName := d.clientName, clientVersion := d.clientVersion
        watchDelay := d.watchDelay } := by
  rw [Draft.build, badTimeout?_of_timely htimely]
  refine (if_neg (mt (isNone_iff_not_constrains _).1 (not_not.2 h))).trans ?_
  cases readPattern d.watch <;> rfl

lemma build_of_badPattern (htimely : Timely d.startTimeout d.requestTimeout)
    (hselector : Constrains d.selector) {fault : Fault}
    (h : Pattern.ofText d.watch = .error fault) :
    d.build = .error (.badPattern d.watch (fault.message d.watch)) := by
  rw [build_of_constrains htimely hselector, readPattern, h]
  rfl

lemma build_of_pattern (htimely : Timely d.startTimeout d.requestTimeout)
    (hselector : Constrains d.selector) {pattern : Pattern}
    (h : Pattern.ofText d.watch = .ok pattern) :
    ∃ c, d.build = .ok c ∧ Completes d.command d.workspaceRoot d.get c := by
  rw [build_of_constrains htimely hselector, readPattern, h]
  exact ⟨_, rfl, rfl, rfl, rfl, rfl, h, rfl, rfl, rfl, rfl, rfl⟩

/-- **The first check that fails decides** what is built. -/
theorem verdict_build (d : Draft) : Verdict d.command d.workspaceRoot d.get d.build where
  zeroStart := build_of_zeroStart
  longStart := build_of_longStart
  zeroRequest := build_of_zeroRequest
  allowsAll := build_of_open
  badPattern htimely hselector _ := build_of_badPattern htimely hselector
  complete htimely hselector _ := build_of_pattern htimely hselector

/-- With a selector that leaves something out, the timeouts and the pattern are all that can
fail. -/
lemma Verdict.isOk_iff {held : (f : Field) → f.Value} {outcome : Except ConfigError Config}
    (h : Verdict command workspaceRoot held outcome) (hselector : Constrains (held .selector)) :
    (∃ c, outcome = .ok c) ↔ Timely (held .startTimeout) (held .requestTimeout)
      ∧ ∃ pattern, Pattern.ofText (held .watch) = .ok pattern := by
  constructor
  · rintro ⟨c, rfl⟩
    have hpositive := Nat.pos_of_ne_zero fun hzero => nomatch h.zeroStart hzero
    have hbounded := Nat.not_lt.1 fun hlong => nomatch h.longStart hlong
    have hrequest := Nat.pos_of_ne_zero fun hzero => nomatch h.zeroRequest hpositive hbounded hzero
    have htimely : Timely (held .startTimeout) (held .requestTimeout) :=
      ⟨hpositive, hbounded, hrequest⟩
    refine ⟨htimely, ?_⟩
    cases hread : Pattern.ofText (held .watch) with
    | ok pattern => exact ⟨pattern, rfl⟩
    | error fault => cases h.badPattern htimely hselector fault hread
  · rintro ⟨htimely, pattern, hread⟩
    obtain ⟨c, hc, -⟩ := h.complete htimely hselector pattern hread
    exact ⟨c, hc⟩

/-! ## What settings come to -/

/-- What is built after settings, one after another. -/
def built (command workspaceRoot : Path) (settings : List Setting) : Except ConfigError Config :=
  ((draft command workspaceRoot).setAll settings).build

/-- Selectors are made of a scheme and a language: one without either can be written down here, but
nobody outside can make it. -/
def Made (settings : List Setting) : Prop :=
  ∀ s, .selector s ∈ settings → ∃ scheme language, s = .ofBoth scheme language

lemma get_setAll_draft (settings : List Setting) :
    ((draft command workspaceRoot).setAll settings).get = settled settings := by
  funext f
  rw [get_setAll, get_draft, settled]

lemma verdict_built (settings : List Setting) :
    Verdict command workspaceRoot (settled settings) (built command workspaceRoot settings) := by
  have hverdict := verdict_build ((draft command workspaceRoot).setAll settings)
  obtain ⟨hcommand, hroot⟩ := places_setAll (draft command workspaceRoot) settings
  rwa [get_setAll_draft, hcommand, hroot] at hverdict

lemma built_congr {other : List Setting} (h : ∀ f, latest? f other = latest? f settings) :
    built command workspaceRoot other = built command workspaceRoot settings := by
  have hplaces := places_setAll (draft command workspaceRoot)
  have hsame : (draft command workspaceRoot).setAll other
      = (draft command workspaceRoot).setAll settings := by
    refine ext_get ((hplaces other).1.trans (hplaces settings).1.symm)
      ((hplaces other).2.trans (hplaces settings).2.symm) fun f => ?_
    rw [get_setAll, get_setAll, h]
  rw [built, built, hsame]

lemma mem_of_latest?_selector {v : Selector} (h : latest? .selector settings = some v) :
    .selector v ∈ settings := by
  induction settings with
  | nil => cases h
  | cons s later ih =>
    rw [latest?, Option.or_eq_some_iff] at h
    rcases h with hlater | ⟨-, hs⟩
    · exact List.mem_cons_of_mem _ (ih hlater)
    · cases s with
      | selector w =>
        obtain rfl : w = v := Option.some.inj hs
        exact List.mem_cons_self
      | _ => cases hs

lemma constrains_settled (h : Made settings) : Constrains (settled settings .selector) := by
  rw [settled]
  cases hlatest : latest? .selector settings with
  | none => exact .inl nofun
  | some v =>
    obtain ⟨scheme, language, hv⟩ := h v (mem_of_latest?_selector hlatest)
    rw [Option.getD_some, hv]
    exact .inl nofun

lemma exists_ofText_settled : (∃ pattern, Pattern.ofText (settled settings .watch) = .ok pattern) ↔
    ∀ text, latest? .watch settings = some text → ∃ pattern, Pattern.ofText text = .ok pattern := by
  rw [settled]
  cases latest? .watch settings with
  | none =>
    have htoml : (Field.usual .watch).toList = '*' :: '*' :: '/' :: '*' :: ".toml".toList := by
      simp [Field.usual]
    have husual : ∃ pattern, Pattern.ofText (Field.usual .watch) = .ok pattern :=
      ⟨_, ofText_everywhere htoml (by simp [isOrdinary])⟩
    simpa using husual
  | some text => simp

/-- What settings come to, however many there are and in whatever order. -/
structure LastCounts (command workspaceRoot : Path) : Prop where
  /-- Nothing counts but the last value of each field. -/
  latest : ∀ settings other, (∀ f, latest? f other = latest? f settings) →
    built command workspaceRoot other = built command workspaceRoot settings
  /-- Settings of different fields may change places. -/
  swapped : ∀ front s t back, s.field ≠ t.field →
    built command workspaceRoot (front ++ t :: s :: back)
      = built command workspaceRoot (front ++ s :: t :: back)
  /-- A setting has no effect, not even one that would be refused, when its field is set again. -/
  overwritten : ∀ front s middle t back, s.field = t.field →
    built command workspaceRoot (front ++ s :: (middle ++ t :: back))
      = built command workspaceRoot (front ++ (middle ++ t :: back))
  /-- The first check that fails decides, and without one each field is the last value set or the
  usual one. -/
  verdict : ∀ settings,
    Verdict command workspaceRoot (settled settings) (built command workspaceRoot settings)
  /-- Selectors as they are made pass their check. -/
  constrained : ∀ settings, Made settings → Constrains (settled settings .selector)
  /-- So a configuration comes of timeouts within their bounds and a pattern, if one is set, that
  can be read, and of nothing else. -/
  accepted : ∀ settings, Made settings →
    ((∃ c, built command workspaceRoot settings = .ok c) ↔
      Timely (settled settings .startTimeout) (settled settings .requestTimeout)
      ∧ ∀ text, latest? .watch settings = some text → ∃ pattern, Pattern.ofText text = .ok pattern)

/-- **The last setting of each field counts**, and the configuration that it makes is judged
once. -/
theorem last_setting_counts (command workspaceRoot : Path) : LastCounts command workspaceRoot where
  latest _ _ h := built_congr h
  swapped front _ _ back h := built_congr fun f => latest?_swap h f front back
  overwritten front _ middle _ back h := built_congr fun f =>
    (latest?_overwritten h f front middle back).symm
  verdict := verdict_built
  constrained _ h := constrains_settled h
  accepted settings h := by
    rw [(verdict_built settings).isOk_iff (constrains_settled h), exists_ofText_settled]

end ServerLink.Config
