import Mathlib
import ServerLink.Proofs.Connection.Wire

/-!
# The conversation with the server

**`converses_of_run`**: whatever callers, the forwarding worker, the server and the session do, and
in whatever order, the methods that a connection writes are the beginning of a handshake, then news
of documents and files, then a farewell.

**The invariant.**  `Keeps c messages` says what was said before: nothing, as long as nothing is
launched; news may follow while the client is ready; and at the stages of a start and a stop that
say something, exactly what `Call.Expects` says.  Calls at those stages hold the lock, so there is
one of them at most.

**The step.**  `Keeps.step` goes by cases on `Voices`: a move that says something is the turn of a
call that expects it, or is told by a client that is ready.
-/

namespace ServerLink.Connection

open Rpc

/-- The methods of requests and notifications; replies have none. -/
def methods (messages : List Outgoing) : List String := messages.filterMap Outgoing.method?

/-- A handshake and news, as long as there is no farewell. -/
def IsTalk (ms : List String) : Prop :=
  ∃ news, (∀ m ∈ news, m ∈ newsMethods)
    ∧ ms = [Editor.Client.handshakeMethod, Editor.Client.readyMethod] ++ news

/-- A handshake, news and a farewell. -/
def IsConversation (ms : List String) : Prop :=
  ∃ talk, IsTalk talk ∧ ms = talk ++ [Editor.Client.farewellMethod, Editor.Client.exitMethod]

/-- The request of the farewell under an id. -/
def farewell (id : Nat) : Outgoing :=
  .request ⟨version, .int id, Editor.Client.farewellMethod, none⟩

/-- How a connection converses. -/
structure Converses (b : Connection) (moves : List Move) (c : Connection) : Prop where
  /-- What was written are messages that were said, in their order. -/
  written : c.session.written = (b.sent moves c).map Outgoing.text
  /-- Their methods are the beginning of a conversation. -/
  ordered : ∃ ms, IsConversation ms ∧ methods (b.sent moves c) <+: ms
  /-- The handshake is opened at the very beginning, and never again. -/
  opens : ∀ early late, methods (b.sent moves c) = early ++ Editor.Client.handshakeMethod :: late →
    early = []
  /-- Nothing else precedes its confirmation. -/
  confirms : ∀ early late, methods (b.sent moves c) = early ++ Editor.Client.readyMethod :: late →
    early = [Editor.Client.handshakeMethod]
  /-- Nothing but the notification to leave follows the farewell. -/
  closes : ∀ early late, methods (b.sent moves c) = early ++ Editor.Client.farewellMethod :: late →
    late <+: [Editor.Client.exitMethod]
  /-- The notification to leave is queued only where the farewell was said and answered without an
  error. -/
  exits : ∀ early m late d o, moves = early ++ m :: late → b.moves? early = some d →
    d.message? m = some o → o.method? = some Editor.Client.exitMethod →
    ∃ id r, farewell id ∈ b.said early ∧ d.session.wake? id = some (.answered r) ∧ r.error = none

/-- What was said before a call comes to its stage, where that matters. -/
def Call.Expects (messages : List Outgoing) (ready : Bool) : Call → Prop
  | .start (.spawned _) | .start (.answering _) | .start (.equipped _) =>
    methods messages = [] ∧ ready = false
  | .start (.initializing _) => methods messages = [Editor.Client.handshakeMethod] ∧ ready = false
  | .stop (.shuttingDown id) =>
    (∃ talk, IsTalk talk ∧ methods messages = talk ++ [Editor.Client.farewellMethod])
    ∧ ready = false ∧ farewell id ∈ messages
  | _ => True

/-- The conversation up to now. -/
structure Keeps (c : Connection) (messages : List Outgoing) : Prop where
  ordered : ∃ ms, IsConversation ms ∧ methods messages <+: ms
  fresh : c.launches = 0 → methods messages = [] ∧ c.client.ready = false
  talks : c.client.ready = true → IsTalk (methods messages)
  expects : ∀ (n : Nat) (call : Call), c.calls[n]? = some call →
    call.Expects messages c.client.ready

variable {b c d : Connection} {m : Move} {messages : List Outgoing} {n : Nat}

/-! ## Talk -/

lemma methods_append (messages more : List Outgoing) :
    methods (messages ++ more) = methods messages ++ methods more := List.filterMap_append

lemma methods_toList (o : Option Outgoing) :
    methods o.toList = (o.bind Outgoing.method?).toList := by
  cases o with
  | none => rfl
  | some o =>
    cases h : o.method? <;> simp [methods, h]

lemma isTalk_begun : IsTalk [Editor.Client.handshakeMethod, Editor.Client.readyMethod] :=
  ⟨[], by simp, rfl⟩

lemma IsTalk.concat {talk : List String} {method : String} (h : IsTalk talk)
    (hnews : method ∈ newsMethods) : IsTalk (talk ++ [method]) := by
  obtain ⟨news, hall, rfl⟩ := h
  refine ⟨news ++ [method], fun m hm => ?_, List.append_assoc _ _ _⟩
  rcases List.mem_append.1 hm with hm | hm
  · exact hall m hm
  · rw [List.mem_singleton.1 hm]
    exact hnews

/-- Talk, and talk with a farewell, are the beginning of a conversation. -/
lemma IsTalk.ordered {talk ms : List String} (h : IsTalk talk)
    (hms : ms <+: talk ++ [Editor.Client.farewellMethod, Editor.Client.exitMethod]) :
    ∃ conversation, IsConversation conversation ∧ ms <+: conversation :=
  ⟨_, ⟨talk, h, rfl⟩, hms⟩

/-- A text that stands at one place only is found there. -/
lemma place_unique {x z early late : List String} {a : String} (hx : a ∉ x) (hz : a ∉ z)
    (h : early ++ a :: late <+: x ++ a :: z) : early = x ∧ late <+: z := by
  obtain ⟨rest, hrest⟩ := h
  rw [List.append_assoc, List.cons_append] at hrest
  obtain ⟨rfl, -, rfl⟩ := (List.append_cons_inj_of_notMem hx hz).1 hrest.symm
  exact ⟨rfl, List.prefix_append _ _⟩

/-! ## Calls that matter -/

/-- Whether a call is at a stage where it matters what was said before. -/
def Call.isVocal : Call → Bool
  | .start (.spawned _) | .start (.answering _) | .start (.equipped _) | .start (.initializing _)
  | .stop (.shuttingDown _) => true
  | _ => false

lemma Call.Expects.of_silent {call : Call} {ready : Bool} (h : call.isVocal = false) :
    call.Expects messages ready := by
  cases call with
  | start s =>
    cases s with
    | spawned | answering | equipped | initializing => exact absurd h (by simp [isVocal])
    | _ => trivial
  | stop s =>
    cases s with
    | shuttingDown => exact absurd h (by simp [isVocal])
    | _ => trivial
  | document => trivial

lemma Call.Expects.silent {call : Call} (h : call.Expects messages true) :
    call.isVocal = false := by
  cases call with
  | start s =>
    cases s with
    | spawned | answering | equipped | initializing => exact absurd h.2 (by simp)
    | _ => rfl
  | stop s =>
    cases s with
    | shuttingDown => exact absurd h.2.1 (by simp)
    | _ => rfl
  | document => rfl

lemma Call.holds_of_vocal {call : Call} (h : call.isVocal = true) : call.holds = true := by
  cases call with
  | start s =>
    cases s with
    | spawned | answering | equipped | initializing => rfl
    | _ => exact absurd h (by simp [isVocal])
  | stop s =>
    cases s with
    | shuttingDown => rfl
    | _ => exact absurd h (by simp [isVocal])
  | document => exact absurd h (by simp [isVocal])

namespace Life

variable {l l' : Life} {k : Nat} {new : Call}

/-- Only a start that opens the handshake comes to wait for the answer. -/
lemma greets_step {id : Nat} (hstep : l.Step m l')
    (hc' : l'.calls[k]? = some (.start (.initializing id))) :
    l.calls[k]? = some (.start (.initializing id)) ∨ m = .sendInitialize k := by
  have hset : ∀ {n : Nat} {new : Call}, new ≠ .start (.initializing id) →
      (l.calls.set n new)[k]? = some (.start (.initializing id)) →
      l.calls[k]? = some (.start (.initializing id)) := by
    intro n new hnew hget
    rcases getElem?_turned hget with ⟨-, hsame⟩ | ⟨-, hsame⟩
    · exact hsame
    · exact absurd hsame.symm hnew
  have hbegun : ∀ {new : Call}, new ≠ .start (.initializing id) →
      (l.calls ++ [new])[k]? = some (.start (.initializing id)) →
      l.calls[k]? = some (.start (.initializing id)) :=
    fun hnew hget => (getElem?_begun hget).resolve_right hnew.symm
  cases hstep with
  | other | exit | record | report => exact .inl hc'
  | callStart | callStop | callDocument => exact .inl (hbegun (by simp) hc')
  | @sendInitialize n root id' hc =>
    by_cases hn : n = k
    · exact .inr (by rw [hn])
    · exact .inl (by rwa [put, List.getElem?_set_ne hn] at hc')
  | _ => exact .inl (hset (by simp) hc')

/-- A call that matters after a move was one that held the lock before. -/
lemma vocal_step (hstep : l.Step m l') (hc' : l'.calls[k]? = some new)
    (hvocal : new.isVocal = true) :
    ∃ old, l.calls[k]? = some old ∧ old.holds = true ∧ (old = new ∨ l.Next m k old new) := by
  cases becomes_of_step hstep k with
  | stays _ hsame => exact ⟨new, hsame ▸ hc', Call.holds_of_vocal hvocal, .inl rfl⟩
  | begins _ _ hnew hbegins =>
    cases hnew.symm.trans hc'
    cases new with
    | start s => cases hbegins; exact absurd hvocal (by simp [Call.isVocal])
    | stop s => cases hbegins; exact absurd hvocal (by simp [Call.isVocal])
    | document => exact absurd hvocal (by simp [Call.isVocal])
  | @turns old _ hc hnew hnext =>
    cases hnew.symm.trans hc'
    refine ⟨old, hc, ?_, .inr hnext⟩
    cases old with
    | start s =>
      cases new with
      | start s' =>
        cases s with
        | waiting =>
          obtain ⟨rfl, -⟩ | ⟨rfl, -⟩ | ⟨rfl, -⟩ := hnext <;>
            exact absurd hvocal (by simp [Call.isVocal])
        | done => exact hnext.elim
        | _ => rfl
      | _ => exact hnext.elim
    | stop s =>
      cases new with
      | stop s' =>
        cases s with
        | called => obtain ⟨-, rfl⟩ := hnext; exact absurd hvocal (by simp [Call.isVocal])
        | waiting => obtain ⟨-, rfl | rfl⟩ := hnext <;> exact absurd hvocal (by simp [Call.isVocal])
        | done => exact hnext.elim
        | _ => rfl
      | _ => exact hnext.elim
    | document s =>
      cases new with
      | document s' => exact absurd hvocal (by simp [Call.isVocal])
      | _ => exact hnext.elim

lemma launches_le_step (hstep : l.Step m l') : l.launches ≤ l'.launches := by
  cases hstep with
  | unlaunched | launch => exact Nat.le_succ _
  | _ => exact le_rfl

end Life

lemma Life.Fails.not_vocal {s : StartStage} (h : Life.Fails s) :
    Call.isVocal (.start s) = false := by
  obtain ⟨e, rfl | rfl⟩ := h <;> rfl

/-! ## Steps -/

/-- Before a call comes to a stage where it matters, what it expects was said already, unless the
move is one that opens the handshake or the farewell. -/
lemma Keeps.foresees (h : c.Keeps messages) (hsound : c.life.Sound) (hstep : c.life.Step m d.life)
    (hinit : ∀ n, m ≠ .sendInitialize n) (hshutdown : ∀ n, m ≠ .sendShutdown n) {k : Nat}
    {new : Call} (hc' : d.calls[k]? = some new) : new.Expects messages c.client.ready := by
  cases hvocal : new.isVocal with
  | false => exact .of_silent hvocal
  | true =>
    have hno : new.isVocal = false → new.Expects messages c.client.ready := fun hnot =>
      absurd (hnot.symm.trans hvocal) (by simp)
    obtain ⟨old, hold, hholds, rfl | hnext⟩ := Life.vocal_step hstep hc' hvocal
    · exact h.expects k old hold
    · cases old with
      | start s =>
        cases new with
        | start s' =>
          have hexpects := h.expects k _ hold
          cases s with
          | waiting | done => exact absurd hholds (by simp [Call.holds, StartStage.isInside])
          | entered =>
            -- no server was launched so far, so nothing was said to it
            obtain ⟨-, ⟨root, rfl⟩ | ⟨e, rfl⟩⟩ := hnext
            · exact h.fresh (hsound.start hold rfl).1.1
            · exact hno rfl
          | spawned | answering =>
            obtain ⟨root, rfl⟩ | hfails := hnext
            · exact hexpects
            · exact hno hfails.not_vocal
          | equipped =>
            obtain ⟨id, rfl⟩ | hfails := hnext
            · rcases Life.greets_step hstep hc' with hsame | hm
              · exact absurd (hold.symm.trans hsame) (by simp)
              · exact absurd hm (hinit k)
            · exact hno hfails.not_vocal
          | initializing =>
            obtain rfl | hfails := hnext
            · exact hno rfl
            · exact hno hfails.not_vocal
          | launched | checked => cases hnext; exact hno rfl
          | discarding | marked => obtain ⟨_, rfl⟩ := hnext; exact hno rfl
        | _ => exact hnext.elim
      | stop s =>
        cases new with
        | stop s' =>
          cases s with
          | unwatched => exact absurd hnext.1 (hshutdown k)
          | called | waiting | done =>
            exact absurd hholds (by simp [Call.holds, StopStage.isInside])
          | taken | shuttingDown | flushing | ending => obtain ⟨-, rfl⟩ := hnext; exact hno rfl
          | shutDown => obtain ⟨-, ticket, rfl⟩ := hnext; exact hno rfl
          | closed | leaving => obtain ⟨-, ⟨-, rfl⟩ | ⟨-, rfl⟩⟩ := hnext <;> exact hno rfl
        | _ => exact hnext.elim
      | document => exact absurd hholds (by simp [Call.holds])

/-- While a call that holds the lock takes its turn, no other call is at a stage where it matters
what was said. -/
lemma expects_of_turn {ready : Bool} {old : Call} (hsound : c.life.Sound)
    (hstep : c.life.Step m d.life) (hm : m.call? = some n) (hc : c.calls[n]? = some old)
    (hholds : old.holds = true)
    (hnew : ∀ new, d.calls[n]? = some new → c.life.Next m n old new → new.Expects messages ready)
    (k : Nat) (call : Call) (hc' : d.calls[k]? = some call) : call.Expects messages ready := by
  cases hvocal : call.isVocal with
  | false => exact .of_silent hvocal
  | true =>
    obtain ⟨other, hother, hin, -⟩ := Life.vocal_step hstep hc' hvocal
    obtain rfl : n = k :=
      Option.some.inj ((hsound.alone hc hholds).symm.trans (hsound.alone hother hin))
    cases Life.becomes_of_step hstep n with
    | stays hnot => exact absurd hm hnot
    | begins _ hnone => exact absurd (hc.symm.trans hnone) (by simp)
    | turns hold hd hnext =>
      cases hold.symm.trans hc
      cases hd.symm.trans hc'
      exact hnew _ hc' hnext

lemma Call.Expects.mono {call : Call} {more : List Outgoing} {ready : Bool}
    (h : call.Expects messages ready) (hmore : methods more = []) :
    call.Expects (messages ++ more) ready := by
  have hsame : methods (messages ++ more) = methods messages := by
    rw [methods_append, hmore, List.append_nil]
  cases call with
  | start s =>
    cases s with
    | spawned | answering | equipped | initializing => exact ⟨hsame.trans h.1, h.2⟩
    | _ => trivial
  | stop s =>
    cases s with
    | shuttingDown id =>
      obtain ⟨⟨talk, htalk, hbefore⟩, hready, hmem⟩ := h
      exact ⟨⟨talk, htalk, hsame.trans hbefore⟩, hready, List.mem_append_left _ hmem⟩
    | _ => trivial
  | document => trivial

/-- Nothing was said if nothing is launched after the move. -/
lemma Keeps.unspoken (h : c.Keeps messages) (hstep : c.life.Step m d.life)
    (hnone : d.launches = 0) : methods messages = [] ∧ c.client.ready = false := by
  have hle : c.launches ≤ d.launches := Life.launches_le_step hstep
  exact h.fresh (by omega)

/-- A start that is under way is past the launch. -/
lemma launched_of_isUnderWay {s : StartStage} (hsound : c.life.Sound)
    (hstep : c.life.Step m d.life) (hc : c.calls[n]? = some (.start s)) (hs : s.isUnderWay = true) :
    d.launches ≠ 0 := by
  have hle : c.launches ≤ d.launches := Life.launches_le_step hstep
  have hone : c.launches = 1 :=
    ((Life.fitsStart_underWay hs).1 (hsound.start hc (Life.isInside_of_isUnderWay hs)).1).1
  omega

/-! ## One voice after another -/

lemma Keeps.quiet (h : c.Keeps messages) (hsound : c.life.Sound) (hstep : c.life.Step m d.life)
    (hinit : ∀ n, m ≠ .sendInitialize n) (hshutdown : ∀ n, m ≠ .sendShutdown n)
    (hmessage : (c.message? m).bind Outgoing.method? = none)
    (hready : d.client.ready = c.client.ready) : d.Keeps (messages ++ (c.message? m).toList) := by
  have hmore : methods (c.message? m).toList = [] := by rw [methods_toList, hmessage]; rfl
  have hsame : methods (messages ++ (c.message? m).toList) = methods messages := by
    rw [methods_append, hmore, List.append_nil]
  refine ⟨hsame ▸ h.ordered, ?_, ?_, fun k call hc' => ?_⟩
  · rw [hsame, hready]
    exact h.unspoken hstep
  · rw [hsame, hready]
    exact h.talks
  · rw [hready]
    exact (h.foresees hsound hstep hinit hshutdown hc').mono hmore

lemma Keeps.sendInitialize {id : Nat} {root : Url} {params : Option Json} (h : c.Keeps messages)
    (hsound : c.life.Sound) (hstep : c.life.Step (.sendInitialize n) d.life)
    (hc : c.calls[n]? = some (.start (.equipped root)))
    (hready : d.client.ready = c.client.ready) :
    d.Keeps (messages ++ [.request ⟨version, .int id, Editor.Client.handshakeMethod, params⟩]) := by
  obtain ⟨hnone, hunready⟩ := h.expects n _ hc
  have hsaid : methods
      (messages ++ [.request ⟨version, .int id, Editor.Client.handshakeMethod, params⟩])
      = [Editor.Client.handshakeMethod] := by
    rw [methods_append, hnone]
    rfl
  refine ⟨isTalk_begun.ordered ?_,
    fun hzero => absurd hzero (launched_of_isUnderWay hsound hstep hc rfl), ?_, ?_⟩
  · rw [hsaid]
    exact ⟨_, rfl⟩
  · rw [hready, hunready]
    exact nofun
  · refine expects_of_turn hsound hstep rfl hc rfl fun new _ hnext => ?_
    cases new with
    | start s =>
      obtain ⟨id, rfl⟩ | hfails := hnext
      · exact ⟨hsaid, hready.trans hunready⟩
      · exact .of_silent hfails.not_vocal
    | _ => exact hnext.elim

/-- The handshake that could not be opened. -/
lemma Keeps.fail {root : Url} (h : c.Keeps messages) (hsound : c.life.Sound)
    (hstep : c.life.Step (.sendInitialize n) d.life)
    (hc : c.calls[n]? = some (.start (.equipped root)))
    (hready : d.client.ready = c.client.ready)
    (hnot : ∀ id, d.calls[n]? ≠ some (.start (.initializing id))) : d.Keeps messages := by
  refine ⟨h.ordered, ?_, ?_, ?_⟩
  · rw [hready]
    exact h.unspoken hstep
  · rw [hready]
    exact h.talks
  · refine expects_of_turn hsound hstep rfl hc rfl fun new hnew hnext => ?_
    cases new with
    | start s =>
      obtain ⟨id, rfl⟩ | hfails := hnext
      · exact absurd hnew (hnot id)
      · exact .of_silent hfails.not_vocal
    | _ => exact hnext.elim

lemma Keeps.finishInitialize {id : Nat} {watch : Except WatchError Path} {params : Option Json}
    (h : c.Keeps messages) (hsound : c.life.Sound)
    (hstep : c.life.Step (.finishInitialize n watch) d.life)
    (hc : c.calls[n]? = some (.start (.initializing id))) :
    d.Keeps (messages ++ [.notification ⟨version, Editor.Client.readyMethod, params⟩]) := by
  have hsaid : methods (messages ++ [.notification ⟨version, Editor.Client.readyMethod, params⟩])
      = [Editor.Client.handshakeMethod, Editor.Client.readyMethod] := by
    rw [methods_append, (h.expects n _ hc).1]
    rfl
  refine ⟨isTalk_begun.ordered ?_,
    fun hzero => absurd hzero (launched_of_isUnderWay hsound hstep hc rfl), ?_, ?_⟩
  · rw [hsaid]
    exact ⟨_, rfl⟩
  · rw [hsaid]
    exact fun _ => isTalk_begun
  · refine expects_of_turn hsound hstep rfl hc rfl fun new _ hnext => ?_
    cases new with
    | start s =>
      obtain rfl | hfails := hnext
      · trivial
      · exact .of_silent hfails.not_vocal
    | _ => exact hnext.elim

lemma Keeps.news {method : String} {params : Option Json} (h : c.Keeps messages)
    (hsound : c.life.Sound) (hstep : c.life.Step m d.life) (hinit : ∀ n, m ≠ .sendInitialize n)
    (hshutdown : ∀ n, m ≠ .sendShutdown n) (hready : c.client.ready = true)
    (hnews : method ∈ newsMethods) :
    d.Keeps (messages ++ [.notification ⟨version, method, params⟩]) := by
  have htalk : IsTalk (methods (messages ++ [.notification ⟨version, method, params⟩])) := by
    rw [methods_append]
    exact (h.talks hready).concat hnews
  refine ⟨htalk.ordered (List.prefix_append _ _), fun hzero => ?_, fun _ => htalk,
    fun k call hc' => ?_⟩
  · exact absurd ((h.unspoken hstep hzero).2.symm.trans hready) (by simp)
  · -- no call is at a stage where it matters, since at those the client is not ready
    have hexpects := h.foresees hsound hstep hinit hshutdown hc'
    rw [hready] at hexpects
    exact .of_silent hexpects.silent

lemma Keeps.sendShutdown {id : Nat} (h : c.Keeps messages) (hsound : c.life.Sound)
    (hstep : c.life.Step (.sendShutdown n) d.life) (hc : c.calls[n]? = some (.stop .unwatched))
    (hready : c.client.ready = true) (hready' : d.client.ready = false)
    (hcalls : d.calls = c.calls.set n (.stop (.shuttingDown id))) :
    d.Keeps (messages ++ [farewell id]) := by
  have htalk := h.talks hready
  have hsaid : methods (messages ++ [farewell id])
      = methods messages ++ [Editor.Client.farewellMethod] := methods_append _ _
  refine ⟨htalk.ordered ?_, fun hzero => ?_, by rw [hready']; exact nofun, ?_⟩
  · rw [hsaid, List.prefix_append_right_inj]
    exact ⟨_, rfl⟩
  · exact absurd ((h.unspoken hstep hzero).2.symm.trans hready) (by simp)
  · refine expects_of_turn hsound hstep rfl hc rfl fun new hnew _ => ?_
    rw [hcalls, List.getElem?_set_self (List.getElem?_eq_some_iff.1 hc).1,
      Option.some.injEq] at hnew
    subst hnew
    exact ⟨⟨_, htalk, hsaid⟩, hready', List.mem_append_right _ (List.mem_singleton_self _)⟩

/-- The farewell that is not said. -/
lemma Keeps.skip (h : c.Keeps messages) (hsound : c.life.Sound)
    (hstep : c.life.Step (.sendShutdown n) d.life) (hc : c.calls[n]? = some (.stop .unwatched))
    (hready' : d.client.ready = false)
    (hnot : ∀ id, d.calls[n]? ≠ some (.stop (.shuttingDown id))) : d.Keeps messages := by
  refine ⟨h.ordered, fun hzero => ⟨(h.unspoken hstep hzero).1, hready'⟩,
    by rw [hready']; exact nofun, ?_⟩
  refine expects_of_turn hsound hstep rfl hc rfl fun new hnew hnext => ?_
  cases new with
  | stop s =>
    obtain ⟨-, rfl | ⟨id, rfl⟩⟩ := hnext
    · trivial
    · exact absurd hnew (hnot id)
  | _ => exact hnext.elim

lemma Keeps.finishShutdown {id : Nat} (h : c.Keeps messages) (hsound : c.life.Sound)
    (hstep : c.life.Step (.finishShutdown n) d.life)
    (hc : c.calls[n]? = some (.stop (.shuttingDown id)))
    (hready : d.client.ready = c.client.ready) :
    d.Keeps (messages ++ [.notification ⟨version, Editor.Client.exitMethod, none⟩]) := by
  obtain ⟨⟨talk, htalk, hbefore⟩, hunready, -⟩ := h.expects n _ hc
  have hsaid : methods (messages ++ [.notification ⟨version, Editor.Client.exitMethod, none⟩])
      = talk ++ [Editor.Client.farewellMethod, Editor.Client.exitMethod] := by
    rw [methods_append, hbefore, List.append_assoc]
    rfl
  refine ⟨htalk.ordered (hsaid ▸ List.prefix_rfl), fun hzero => ?_, ?_, ?_⟩
  · have hempty := (h.unspoken hstep hzero).1
    rw [hbefore] at hempty
    exact absurd hempty (by simp)
  · rw [hready, hunready]
    exact nofun
  · refine expects_of_turn hsound hstep rfl hc rfl fun new _ hnext => ?_
    cases new with
    | stop s =>
      obtain ⟨-, rfl⟩ := hnext
      trivial
    | _ => exact hnext.elim

/-- **Every move keeps the conversation.** -/
theorem Keeps.step (h : c.Keeps messages) (hsound : c.life.Sound) (hm : c.move? m = some d) :
    d.Keeps (messages ++ (c.message? m).toList) := by
  have hstep := step_of_move? hm
  cases (utters_of_move? hm).voices with
  | quiet hinit hshutdown hmessage hready =>
    exact h.quiet hsound hstep hinit hshutdown hmessage hready
  | sendInitialize hc hmessage hready =>
    rw [hmessage]
    exact h.sendInitialize hsound hstep hc hready
  | fail hc hmessage hready hnot =>
    rw [hmessage, Option.toList_none, List.append_nil]
    exact h.fail hsound hstep hc hready hnot
  | finishInitialize hc hmessage hready =>
    rw [hmessage]
    exact h.finishInitialize hsound hstep hc
  | news hinit hshutdown hready hmessage hnews hready' =>
    rw [hmessage]
    exact h.news hsound hstep hinit hshutdown hready hnews
  | sendShutdown hc hready hmessage hready' hcalls =>
    rw [hmessage]
    exact h.sendShutdown hsound hstep hc hready hready' hcalls
  | skip hc hmessage hready' hnot =>
    rw [hmessage, Option.toList_none, List.append_nil]
    exact h.skip hsound hstep hc hready' hnot
  | finishShutdown hc hwake herror hmessage hready =>
    rw [hmessage]
    exact h.finishShutdown hsound hstep hc hready

/-! ## Runs -/

section Run

variable {moves : List Move} {config : Config} {home : Path} {processId : Nat}

lemma keeps_new : (new config home processId).Keeps [] :=
  ⟨isTalk_begun.ordered List.nil_prefix, fun _ => ⟨rfl, rfl⟩, nofun, nofun⟩

/-- **Every run keeps the conversation.** -/
lemma keeps_said (h : (new config home processId).moves? moves = some c) :
    c.Keeps ((new config home processId).said moves) := by
  refine moves?_induction (P := fun moves c => c.Keeps ((new config home processId).said moves)) h
    keeps_new fun hmoves hkeeps hm => ?_
  rw [said_concat hmoves]
  exact hkeeps.step (Reachable.refl.moves? hmoves).sound hm

lemma notMem_news {method : String} {news : List String} (hall : ∀ m ∈ news, m ∈ newsMethods)
    (h : method ∉ newsMethods) : method ∉ news := fun hin => h (hall method hin)

/-- Only a stop whose farewell was answered without an error says that the server may leave. -/
lemma Keeps.exits {e : Connection} {o : Outgoing} (h : d.Keeps messages) (hm : d.move? m = some e)
    (ho : d.message? m = some o) (hexit : o.method? = some Editor.Client.exitMethod) :
    ∃ id r, farewell id ∈ messages ∧ d.session.wake? id = some (.answered r) ∧ r.error = none := by
  have hsaid : (d.message? m).bind Outgoing.method? = some Editor.Client.exitMethod := by
    rw [ho, Option.bind_some, hexit]
  cases (utters_of_move? hm).voices with
  | quiet _ _ hmessage => exact absurd (hmessage.symm.trans hsaid) (by simp)
  | fail _ hmessage | skip _ hmessage => exact absurd (hmessage.symm.trans ho) (by simp)
  | sendInitialize _ hmessage =>
    rw [hmessage] at hsaid
    have hsame : Editor.Client.handshakeMethod = _ := Option.some.inj hsaid
    exact absurd hsame (by decide)
  | finishInitialize _ hmessage =>
    rw [hmessage] at hsaid
    have hsame : Editor.Client.readyMethod = _ := Option.some.inj hsaid
    exact absurd hsame (by decide)
  | sendShutdown _ _ hmessage =>
    rw [hmessage] at hsaid
    have hsame : Editor.Client.farewellMethod = _ := Option.some.inj hsaid
    exact absurd hsame (by decide)
  | @news _ method _ _ _ _ _ hmessage hnews =>
    rw [hmessage] at hsaid
    obtain rfl : method = _ := Option.some.inj hsaid
    exact absurd hnews (by decide)
  | @finishShutdown n id r _ hc hwake herror => exact ⟨id, r, (h.expects n _ hc).2.2, hwake, herror⟩

/-- **Every connection converses in order.** -/
theorem converses_of_run (h : (new config home processId).moves? moves = some c) :
    Converses (new config home processId) moves c := by
  obtain ⟨ms, hconversation, hprefix⟩ := (keeps_said h).ordered
  have hordered : methods ((new config home processId).sent moves c) <+: ms :=
    ((List.take_prefix _ _).filterMap _).trans hprefix
  obtain ⟨talk, ⟨news, hnews, rfl⟩, rfl⟩ := id hconversation
  constructor
  case written => exact written_eq_sent h
  case ordered => exact ⟨_, hconversation, hordered⟩
  case opens =>
    -- the single messages have their places in any conversation, and so in the front that is sent
    intro early late hsplit
    rw [hsplit] at hordered
    refine (place_unique (x := []) (by simp) ?_ hordered).1
    have hnot : Editor.Client.handshakeMethod ∉ news := notMem_news hnews (by decide)
    simp [hnot]
    decide
  case confirms =>
    intro early late hsplit
    rw [hsplit] at hordered
    refine (place_unique (x := [Editor.Client.handshakeMethod]) (by decide) ?_ hordered).1
    have hnot : Editor.Client.readyMethod ∉ news := notMem_news hnews (by decide)
    simp [hnot]
    decide
  case closes =>
    intro early late hsplit
    rw [hsplit] at hordered
    refine (place_unique ?_ (by decide) hordered).2
    have hnot : Editor.Client.farewellMethod ∉ news := notMem_news hnews (by decide)
    simp [hnot]
    decide
  case exits =>
    intro early m late d o hsplit hearly ho hexit
    rw [hsplit, moves?_append, hearly, Option.bind_some, moves?] at h
    obtain ⟨e, hm, -⟩ := Option.bind_eq_some_iff.1 h
    exact (keeps_said hearly).exits hm ho hexit

end Run

/-! ## A whole conversation -/

/-- What the server answers to the farewell. -/
def release : String := "\x7b\"jsonrpc\":\"2.0\",\"id\":2,\"result\":null\x7d"

/-- The document of the workspace that is opened. -/
def notebook : Url := ⟨"file".toList, some [], "/w/a.toml".toList, none, none⟩

/-- The handshake is closed, a document is opened and forwarded, and a stop says farewell. -/
def working : List Move :=
  [.loop .dispatch, .finishInitialize 0 (.ok ⟨Utf8.ofString "/w"⟩), .markRunning 0, .checkAlive 0,
    .finishStart 0, .loop (.write none), .callDocument (.opened notebook "toml" 1 "a = 1"),
    .filterDocument 1, .checkRunning 1, .sendDocument 1, .loop (.write none), .callStop,
    .cancelStart 2, .lockForStop 2, .stopWatching 2, .sendShutdown 2, .loop (.write none)]

/-- The stop says that the server may leave. -/
def leaving : List Move := [.loop .dispatch, .finishShutdown 2, .loop (.write none)]

def worked : Connection := (answered.moves? working).getD workshop

/-- The answer to the farewell is in hand. -/
def released : Connection :=
  { worked with session := { worked.session with phase := .handing release } }

def conversed : Connection := (released.moves? leaving).getD workshop

set_option maxRecDepth 8000 in
lemma moves_working : answered.moves? working = some worked := rfl

set_option maxRecDepth 8000 in
lemma moves_leaving : released.moves? leaving = some conversed := rfl

lemma absorb_release :
    worked.move? (.loop (.absorb (Frame.ofMessage release))) = some released := by
  have habsorb : worked.session.decoder.absorb (Frame.ofMessage release)
      = ⟨⟨[], [release]⟩, [], none⟩ := Frame.absorb_ofMessage (by decide) rfl
  simp only [move?, Rpc.Session.move?, habsorb]
  rfl

/-- The handshake, a document, and the farewell. -/
def visit : List Move :=
  opening ++ .loop (.absorb (Frame.ofMessage consent)) :: working
    ++ .loop (.absorb (Frame.ofMessage release)) :: leaving

lemma moves_visit : workshop.moves? visit = some conversed := by
  rw [visit, moves?_append, moves?_append, moves_opening, Option.bind_some, moves?, absorb_consent,
    Option.bind_some, moves_working, Option.bind_some, moves?, absorb_release, Option.bind_some,
    moves_leaving]

lemma said_visit : workshop.said visit
    = workshop.said opening ++ answered.said working ++ released.said leaving := by
  have hworking : opened.moves? (.loop (.absorb (Frame.ofMessage consent)) :: working)
      = some worked := by
    rw [moves?, absorb_consent, Option.bind_some, moves_working]
  rw [visit, List.append_assoc, said_append moves_opening, said_append hworking,
    said_cons absorb_consent rfl, said_cons absorb_release rfl, List.append_assoc]

set_option maxRecDepth 8000 in
lemma sent_visit : workshop.sent visit conversed = workshop.said visit := by
  have hopening : (workshop.said opening).length = 1 := rfl
  have hworking : (answered.said working).length = 3 := rfl
  have hleaving : (released.said leaving).length = 1 := rfl
  have hwritten : conversed.session.written.length = 5 := rfl
  rw [sent, hwritten, List.take_of_length_le]
  simp [said_visit, hopening, hworking, hleaving]

set_option maxRecDepth 8000 in
/-- The five messages of the visit were written in order. -/
theorem converses_visit : workshop.moves? visit = some conversed
    ∧ methods (workshop.sent visit conversed)
      = ["initialize", "initialized", "textDocument/didOpen", "shutdown", "exit"]
    ∧ Converses workshop visit conversed := by
  have hopening : methods (workshop.said opening) = ["initialize"] := rfl
  have hworking : methods (answered.said working)
      = ["initialized", "textDocument/didOpen", "shutdown"] := rfl
  have hleaving : methods (released.said leaving) = ["exit"] := rfl
  refine ⟨moves_visit, ?_, converses_of_run moves_visit⟩
  rw [sent_visit, said_visit, methods_append, methods_append, hopening, hworking, hleaving]
  rfl

end ServerLink.Connection
