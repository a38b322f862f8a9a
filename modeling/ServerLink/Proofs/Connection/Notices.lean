import Mathlib
import ServerLink.Proofs.Connection.SingleUse
import ServerLink.Proofs.Connection.Wire

/-!
# A failed start is reported once

The user is shown a notice where a start fails, and nowhere else.  The moves of a connection are of
two kinds here: those by which a start can be decided, and all others.

**The others** show the user nothing (`silent_of_move?`).  What the session shows is what its
handlers show, so this needs that they are `Tame`, which those of the editor's client are.

**A start that is decided** goes on, gives up without a word, or fails and shows its notice, and
these are all cases (`decides_of_move?`).

**Over runs.**  A start that is decided found the connection idle and leaves it otherwise, so there
is one at most (`Life.Decided`), and with it one notice.

* **`reachable_reportsOnce`** — the user was shown what the one start said that failed, if one did.
-/

namespace ServerLink.Connection

open Process
open Log (notices_append notices_line notices_lines)

/-! ## What a session shows -/

/-- The handlers show the user nothing. -/
structure Tame (h : Rpc.Handlers) : Prop where
  request : ∀ f, h.onRequest = some f → ∀ r, Log.notices (f r).2 = []
  notification : ∀ f, h.onNotification = some f → ∀ n, Log.notices (f n) = []

lemma tame_none : Tame .none := ⟨nofun, nofun⟩

lemma tame_handlers : Tame Editor.Client.handlers := by
  constructor
  · rintro f hf r
    cases hf
    simp [Log.notices, Log.Shown.line, Log.Shown.notice?, List.filterMap_map, Function.comp_def]
  · rintro f hf n
    cases hf
    rfl

lemma Tame.deaf {h : Rpc.Handlers} (htame : Tame h) : Tame { h with onNotification := none } :=
  ⟨htame.request, nofun⟩

section Session

variable {s t : Rpc.Session} {m : Rpc.Move}

lemma handlers_of_move? (h : s.move? m = some t) (hm : ∀ h, m ≠ .install h) :
    t.handlers = s.handlers := by
  cases Rpc.Session.moves_of_move? h with
  | install handlers => exact absurd rfl (hm handlers)
  | _ => rfl

lemma handlers_move (s : Rpc.Session) (hm : ∀ h, m ≠ .install h) :
    (s.move m).handlers = s.handlers := by
  rw [Rpc.Session.move]
  cases hmove : s.move? m with
  | none => rfl
  | some t => exact handlers_of_move? hmove hm

lemma handlers_call (s : Rpc.Session) (method : String) (params : Option Json) :
    (s.call method params).1.handlers = s.handlers := by
  have hbegun : ((s.move .allot).move (.register s.nextId)).handlers = s.handlers := rfl
  rw [Rpc.Session.call]
  split
  · rename_i hpost
    exact (handlers_of_move? hpost (by simp)).trans hbegun
  · exact (handlers_move _ (by simp)).trans hbegun

lemma handlers_notify (s : Rpc.Session) (method : String) (params : Option Json) :
    (s.notify method params).1.handlers = s.handlers := by
  rw [Rpc.Session.notify]
  split
  · rename_i hpost
    exact handlers_of_move? hpost (by simp)
  · rfl

/-- A message that is handed out is no notice, whatever it says. -/
lemma notices_dispatch (htame : Tame s.handlers) (text : String) :
    ∃ more, (s.dispatch text).shown = s.shown ++ more ∧ Log.notices more = [] := by
  rw [Rpc.Session.dispatch]
  split
  · rw [Rpc.Session.takeResponse]
    split
    · exact ⟨_, rfl, rfl⟩
    · split <;> exact ⟨[], by simp, rfl⟩
  · rename_i r _
    refine ⟨(s.replyTo r).2, rfl, ?_⟩
    rw [Rpc.Session.replyTo]
    split
    · exact htame.request _ ‹_› r
    · rfl
  · rename_i n _
    rw [Rpc.Session.takeNotification]
    split
    · exact ⟨_, rfl, htame.notification _ ‹_› n⟩
    · exact ⟨[], by simp, rfl⟩
  · exact ⟨_, rfl, rfl⟩

lemma shown_takeUp? (h : s.takeUp? = some t) : t.shown = s.shown := by
  obtain ⟨-, hnone⟩ | ⟨text, queue, -, hsome⟩ := Rpc.Session.takeUp?_cases s
  · cases hnone.symm.trans h
  · cases hsome.symm.trans h
    rfl

/-- **A session shows the user nothing.** -/
lemma notices_of_move? (htame : Tame s.handlers) (h : s.move? m = some t) :
    ∃ more, t.shown = s.shown ++ more ∧ Log.notices more = [] := by
  have hsame : t.shown = s.shown → ∃ more, t.shown = s.shown ++ more ∧ Log.notices more = [] :=
    fun hshown => ⟨[], by simp [hshown], rfl⟩
  cases m with
  | allot | register | withdraw | cancelAll | stop | install => cases h; exact hsame rfl
  | post | mark | observeStop | loseStream | wake | close | drop =>
    simp only [Rpc.Session.move?] at h
    split at h <;> cases h
    exact hsame rfl
  | acknowledge =>
    simp only [Rpc.Session.move?] at h
    split at h <;> cases h
    exact hsame rfl
  | deliver =>
    simp only [Rpc.Session.move?] at h
    split at h
    · exact hsame (shown_takeUp? h)
    · cases h
  | dispatch =>
    simp only [Rpc.Session.move?] at h
    split at h
    · cases h
      exact notices_dispatch (s := { s with phase := .running }) htame _
    · cases h
  | write refusal =>
    simp only [Rpc.Session.move?] at h
    split at h
    · split at h <;> cases h
      · exact hsame rfl
      · exact ⟨_, rfl, rfl⟩
    · cases h
  | absorb chunk =>
    simp only [Rpc.Session.move?] at h
    split at h
    · refine ⟨(s.decoder.absorb chunk).log.map (.line Log.frameTarget), ?_, notices_lines _ _⟩
      cases h
      split
      · rfl
      · cases hlocks : Rpc.Session.takeUp? _ with
        | none => rfl
        | some u => exact shown_takeUp? hlocks
    · cases h

end Session

/-! ## Moves that decide no start -/

/-- The start that the move can decide. -/
def Move.decides? : Move → Option Nat
  | .launch n _ | .sendInitialize n | .abortStart n | .finishInitialize n _
  | .expireInitialize n | .finishDiscard n => some n
  | _ => none

/-- The user is shown nothing, and whoever hears the server shows the user nothing. -/
structure Silent (c d : Connection) : Prop where
  notices : d.notices = c.notices
  tame : Tame c.session.handlers → Tame d.session.handlers

variable {c d : Connection} {m : Move} {n : Nat}

lemma Silent.of_eq (hnotices : d.notices = c.notices)
    (hhandlers : d.session.handlers = c.session.handlers) : c.Silent d :=
  ⟨hnotices, fun h => hhandlers ▸ h⟩

lemma notices_noteAt (c : Connection) (target : String) (line : Log.Line) :
    (c.noteAt target line).notices = c.notices := by
  rw [notices, noteAt, notices_append, notices_line, List.append_nil, ← notices]

lemma notices_note (c : Connection) (line : Log.Line) : (c.note line).notices = c.notices :=
  notices_noteAt c _ line

lemma notices_notify (c : Connection) (text : String) :
    (c.notify text).notices = c.notices ++ [text] :=
  notices_append _ _

lemma Silent.trans (h : c.Silent d) {e : Connection} (h' : d.Silent e) : c.Silent e :=
  ⟨h'.notices.trans h.notices, h'.tame ∘ h.tame⟩

lemma silent_move (c : Connection) {m : Rpc.Move} (hm : ∀ h, m ≠ .install h) :
    c.Silent { c with session := c.session.move m } :=
  .of_eq rfl (handlers_move c.session hm)

lemma silent_closeFarewell (c : Connection) (n : Nat) (answer : Except RpcError Json) :
    c.Silent (c.closeFarewell n answer) := by
  have hhandlers : (Editor.Client.closeFarewell c.session answer).1.handlers
      = c.session.handlers := by
    cases answer with
    | error e => rfl
    | ok answer => exact handlers_notify _ _ _
  rw [closeFarewell]
  split <;> rename_i hclose <;> rw [hclose] at hhandlers
  · exact .of_eq rfl hhandlers
  · exact .of_eq (notices_note c _) hhandlers

lemma handlers_tell (client : Editor.Client) (s : Rpc.Session) (method : String)
    (params : Except EditorError Json) : (client.tell s method params).1.handlers = s.handlers := by
  rw [Editor.Client.tell.eq_def]
  split
  · rfl
  · split
    · rfl
    · exact handlers_notify _ _ _

lemma handlers_files {client : Editor.Client} {s t : Rpc.Session} {events : List Json}
    {e : Option EditorError} (h : client.didChangeFiles s events = (t, e)) :
    t.handlers = s.handlers := by
  rw [Editor.Client.didChangeFiles] at h
  split at h
  · cases h
    rfl
  · rw [← handlers_tell client s _ _, h]

lemma silent_lockForStart (h : c.lockForStart n = some d) : c.Silent d := by
  simp only [lockForStart] at h
  split at h
  · split at h <;> cases h
    · exact .of_eq (notices_note _ _) rfl
    · exact .of_eq rfl rfl
    · exact .of_eq rfl rfl
  · cases h

lemma silent_installHandlers (h : c.installHandlers n = some d) : c.Silent d := by
  simp only [installHandlers] at h
  split at h <;> cases h
  · exact ⟨rfl, fun _ => tame_handlers.deaf⟩
  · exact ⟨rfl, fun _ => tame_handlers⟩

lemma silent_finishStart (h : c.finishStart n = some d) : c.Silent d := by
  simp only [finishStart] at h
  split at h
  · rename_i alive _
    cases h
    cases alive with
    | true => exact .of_eq (notices_note _ _) rfl
    | false => exact .of_eq ((notices_note _ _).trans (notices_note c _)) rfl
  · cases h

lemma silent_lockForStop (h : c.lockForStop n = some d) : c.Silent d := by
  simp only [lockForStop] at h
  split at h
  · split at h <;> cases h <;> exact .of_eq (notices_note _ _) rfl
  · cases h

lemma silent_sendShutdown (h : c.sendShutdown n = some d) : c.Silent d := by
  simp only [sendShutdown] at h
  split at h
  · split at h
    · cases h
    · split at h
      · cases h
        exact .of_eq rfl rfl
      · have hhandlers := handlers_call c.session Editor.Client.farewellMethod none
        split at h <;> rename_i hcall <;> rw [hcall] at hhandlers <;> cases h
        · exact .of_eq (notices_noteAt c _ _) hhandlers
        · exact .of_eq ((notices_note _ _).trans (notices_noteAt c _ _)) hhandlers
  · cases h

lemma silent_finishShutdown (h : c.finishShutdown n = some d) : c.Silent d := by
  simp only [finishShutdown] at h
  split at h
  · obtain ⟨wake, -, rfl⟩ := Option.map_eq_some_iff.1 h
    exact silent_closeFarewell c n _
  · cases h

lemma silent_expireShutdown (h : c.expireShutdown n = some d) : c.Silent d := by
  simp only [expireShutdown] at h
  split at h
  · split at h <;> cases h
    exact (silent_move c (by simp)).trans (silent_closeFarewell _ n _)
  · cases h

lemma silent_flush (h : c.flush n = some d) : c.Silent d := by
  simp only [flush] at h
  split at h
  · split at h <;> cases h
    · rename_i hmark
      exact .of_eq rfl (handlers_of_move? hmark (by simp))
    · exact .of_eq rfl rfl
  · cases h

lemma silent_close {late : Bool} (h : c.close n late = some d) : c.Silent d := by
  simp only [close] at h
  split at h
  · split at h <;> cases h
    exact .of_eq rfl rfl
  · cases h

lemma silent_checkProcess (h : c.checkProcess n = some d) : c.Silent d := by
  simp only [checkProcess] at h
  split at h
  · cases h
    split
    · exact .of_eq rfl rfl
    · exact .of_eq (notices_note c _) rfl
  · cases h

lemma silent_stopProcess (h : c.stopProcess n = some d) : c.Silent d := by
  simp only [stopProcess] at h
  split at h
  · split at h <;> cases h <;> exact .of_eq rfl rfl
  · cases h

lemma silent_awaitExit {late : Bool} (h : c.awaitExit n late = some d) : c.Silent d := by
  simp only [awaitExit] at h
  split at h
  · split at h <;> cases h
    exact .of_eq (notices_note _ _) rfl
  · cases h

lemma silent_filterDocument (h : c.filterDocument n = some d) : c.Silent d := by
  simp only [filterDocument] at h
  split at h
  · rename_i r _
    rcases ite_eq_iff.1 h with ⟨-, h⟩ | ⟨-, h⟩
    · cases h
      exact .of_eq rfl rfl
    · cases h
      cases r <;> exact .of_eq rfl rfl
  · cases h

lemma silent_sendDocument (h : c.sendDocument n = some d) : c.Silent d := by
  simp only [sendDocument] at h
  split at h
  · rename_i r _ _
    have hhandlers := handlers_tell c.client c.session r.method r.params
    rw [← queue_eq] at hhandlers
    split at h <;> rename_i hqueue <;> rw [hqueue] at hhandlers <;> cases h
    · exact .of_eq rfl hhandlers
    · cases r with
      | opened => dsimp only; split <;> exact .of_eq rfl hhandlers
      | _ => exact .of_eq rfl hhandlers
  · cases h

lemma silent_forward (h : c.forward = some d) : c.Silent d := by
  simp only [forward] at h
  split at h
  · split at h <;> rename_i hsends <;> cases h
    · exact .of_eq (notices_note c _) (handlers_files hsends)
    · exact .of_eq ((notices_note _ _).trans (notices_note c _)) (handlers_files hsends)
  · cases h

/-- What the session shows is what its handlers show. -/
lemma silent_loop {m : Rpc.Move} (htame : Tame c.session.handlers)
    (h : c.move? (.loop m) = some d) :
    c.Silent d := by
  simp only [move?] at h
  split at h
  · rename_i hloop
    obtain ⟨s, hs, rfl⟩ := Option.map_eq_some_iff.1 h
    obtain ⟨more, hshown, hnone⟩ := notices_of_move? htame hs
    refine .of_eq ?_ (handlers_of_move? hs ?_)
    · show Log.notices (c.shown ++ s.shown.drop c.session.shown.length) = _
      rw [hshown, List.drop_left, notices_append, hnone, List.append_nil, notices]
    · rintro handlers rfl
      simp [isLoopMove] at hloop
  · cases h

/-- **A move that decides no start shows the user nothing.** -/
theorem silent_of_move? (htame : Tame c.session.handlers) (hm : m.decides? = none)
    (h : c.move? m = some d) : c.Silent d := by
  cases m with
  -- only the moves that may decide a start have something to tell
  | launch | sendInitialize | abortStart | finishInitialize | expireInitialize | finishDiscard =>
    cases hm
  | callStart | callStop | callDocument => cases h; exact .of_eq rfl rfl
  | lockForStart => exact silent_lockForStart h
  | installHandlers => exact silent_installHandlers h
  | markRunning n | checkAlive n =>
    simp only [move?, markRunning, checkAlive] at h
    split at h <;> cases h
    exact .of_eq rfl rfl
  | finishStart => exact silent_finishStart h
  | cancelStart n =>
    simp only [move?, cancelStart] at h
    split at h <;> cases h
    exact .of_eq rfl rfl
  | lockForStop => exact silent_lockForStop h
  | stopWatching n =>
    simp only [move?, stopWatching] at h
    split at h <;> cases h
    exact .of_eq rfl rfl
  | sendShutdown => exact silent_sendShutdown h
  | finishShutdown => exact silent_finishShutdown h
  | expireShutdown => exact silent_expireShutdown h
  | flush => exact silent_flush h
  | close => exact silent_close h
  | checkProcess => exact silent_checkProcess h
  | stopProcess => exact silent_stopProcess h
  | awaitExit => exact silent_awaitExit h
  | filterDocument => exact silent_filterDocument h
  | checkRunning n =>
    simp only [move?, checkRunning] at h
    split at h <;> cases h
    exact .of_eq rfl rfl
  | sendDocument => exact silent_sendDocument h
  | receiveBatch changes =>
    simp only [move?, receiveBatch] at h
    split at h
    · split at h <;> cases h <;> exact .of_eq rfl rfl
    · cases h
  | forward => exact silent_forward h
  | loop => exact silent_loop htame h
  | readStderr line =>
    simp only [move?] at h
    split at h <;> cases h
    exact .of_eq (notices_noteAt c _ _) rfl
  | exit pid code | record pid =>
    obtain ⟨p, -, rfl⟩ := Option.map_eq_some_iff.1 h
    exact .of_eq rfl rfl
  | report pid =>
    obtain ⟨p, -, rfl⟩ := Option.map_eq_some_iff.1 h
    dsimp only
    split
    · exact .of_eq (notices_note _ _) rfl
    · exact .of_eq rfl rfl

/-! ## Moves that may decide a start -/

/-- The start did fail: it was not refused, and it was not given up. -/
def IsFailure (e : ConnectionError) : Prop := e ≠ .alreadyStarted ∧ e ≠ .stopped ∧ e ≠ .cancelled

/-- The call is a start that failed. -/
def Failed (c : Connection) (n : Nat) (e : ConnectionError) : Prop :=
  c.calls[n]? = some (.start (.done (.error e))) ∧ IsFailure e

/-- A start that ends the server does so because it failed. -/
def Reasoned (c : Connection) : Prop :=
  ∀ (n : Nat) e, c.calls[n]? = some (.start (.discarding e)) → IsFailure e

/-- What comes of a start by a move that may decide it. -/
inductive Decision (c : Connection) (n : Nat) (d : Connection) : Prop where
  | goesOn {s : StartStage} (hcalls : d.calls = c.calls.set n (.start s)) (hs : s.rank ≠ 0)
      (hreason : ∀ e, s = .discarding e → IsFailure e) (hnotices : d.notices = c.notices)
  | gaveUp (hcalls : d.calls = c.calls.set n (.start (.done (.error .cancelled))))
      (hnotices : d.notices = c.notices)
  | failed {e : ConnectionError} (he : IsFailure e)
      (hcalls : d.calls = c.calls.set n (.start (.done (.error e))))
      (hnotices : d.notices = c.notices ++ [notice e])
      (hleft : d.phase = .stopped ∧ d.holder = none)

/-- A move that may decide the start comes to a decision, and the handlers stay. -/
structure Decides (c : Connection) (n : Nat) (d : Connection) : Prop where
  decision : c.Decision n d
  handlers : d.session.handlers = c.session.handlers

/-- What a decision depends on is the same. -/
structure Beside (c b : Connection) : Prop where
  calls : b.calls = c.calls
  notices : b.notices = c.notices
  handlers : b.session.handlers = c.session.handlers

lemma isFailure_editor (e : EditorError) : IsFailure (.editor e) := ⟨nofun, nofun, nofun⟩

lemma isFailure_watch (e : WatchError) : IsFailure (.watch e) := ⟨nofun, nofun, nofun⟩

lemma isFailure_process (e : ProcessError) : IsFailure (.process e) := ⟨nofun, nofun, nofun⟩

lemma isFailure_badRoot (root : Path) : IsFailure (.badRoot root) := ⟨nofun, nofun, nofun⟩

/-- **A start that fails shows its notice.** -/
lemma notices_failStart (c : Connection) (n : Nat) {e : ConnectionError} (he : IsFailure e) :
    (c.failStart n e).notices = c.notices ++ [notice e] := by
  cases e with
  | cancelled => exact absurd rfl he.2.2
  | _ => exact (notices_notify _ _).trans (congrArg (· ++ _) (notices_note _ _))

/-- A start that is given up shows none. -/
lemma notices_abortStart (c : Connection) (n : Nat) :
    (c.failStart n .cancelled).notices = c.notices :=
  notices_note _ _

lemma calls_failStart (c : Connection) (n : Nat) (e : ConnectionError) :
    (c.failStart n e).calls = c.calls.set n (.start (.done (.error e))) :=
  congrArg Life.calls (life_failStart c n e)

lemma left_failStart (c : Connection) (n : Nat) (e : ConnectionError) :
    (c.failStart n e).phase = .stopped ∧ (c.failStart n e).holder = none :=
  ⟨congrArg Life.phase (life_failStart c n e), congrArg Life.holder (life_failStart c n e)⟩

lemma notices_watchBegun (shown : List Log.Shown) (config : Config) (root : Path) :
    Log.notices (shown ++ [watchBegun config root]) = Log.notices shown :=
  (notices_append shown _).trans (List.append_nil _)

lemma session_failStart_handlers (c : Connection) (n : Nat) (e : ConnectionError) :
    (c.failStart n e).session.handlers = c.session.handlers :=
  congrArg Rpc.Session.handlers (session_failStart c n e)

section Start

variable {b : Connection}

lemma Beside.noteAt (h : c.Beside b) (target : String) (line : Log.Line) :
    c.Beside (b.noteAt target line) :=
  ⟨h.calls, (notices_noteAt b target line).trans h.notices, h.handlers⟩

lemma Beside.fails (h : c.Beside b) {e : ConnectionError} (he : IsFailure e) :
    c.Decides n (b.failStart n e) where
  decision := .failed he (by rw [calls_failStart, h.calls])
    (by rw [notices_failStart b n he, h.notices]) (left_failStart b n e)
  handlers := (session_failStart_handlers b n e).trans h.handlers

lemma Beside.givesUp (h : c.Beside b) : c.Decides n (b.failStart n .cancelled) where
  decision := .gaveUp (by rw [calls_failStart, h.calls]) (by rw [notices_abortStart, h.notices])
  handlers := h.handlers

lemma Beside.discards (h : c.Beside b) {e : ConnectionError} (he : IsFailure e) :
    c.Decides n (b.discard n e) := by
  have hdropped : c.Beside b.dropClient := ⟨h.calls, h.notices, h.handlers⟩
  rw [discard]
  split
  · refine ⟨.goesOn (s := .discarding e) ?_ (by simp [StartStage.rank]) ?_ h.notices, h.handlers⟩
    · rw [← h.calls]
      rfl
    · rintro e' hsame
      cases hsame
      exact he
  · exact hdropped.fails he

lemma decides_openHandshake (root : Url) : c.Decides n (c.openHandshake n root) := by
  have hnoted : c.Beside (c.noteAt Log.editorTarget (Log.info "Initializing LSP client")) :=
    Beside.noteAt ⟨rfl, rfl, rfl⟩ _ _
  rw [openHandshake]
  split
  · exact hnoted.discards (isFailure_editor _)
  · rename_i params _
    have hhandlers := handlers_call c.session Editor.Client.handshakeMethod (some params)
    split <;> rename_i hcall <;> rw [noteAt] at hcall <;> rw [hcall] at hhandlers
    · exact ⟨.goesOn rfl (by simp [StartStage.rank]) (by simp) hnoted.notices, hhandlers⟩
    · refine Beside.discards ?_ (isFailure_editor _)
      exact ⟨rfl, hnoted.notices, hhandlers⟩

lemma handlers_closeHandshake (client : Editor.Client) (s : Rpc.Session)
    (answer : Except RpcError Json) :
    (client.closeHandshake s answer).2.1.handlers = s.handlers := by
  cases answer with
  | error e => rfl
  | ok answer =>
    have hhandlers := handlers_notify s Editor.Client.readyMethod (some (.obj []))
    rw [Editor.Client.closeHandshake]
    split <;> rename_i hnotify <;> rw [hnotify] at hhandlers <;> exact hhandlers

lemma Beside.closesHandshake (h : c.Beside b) (answer : Except RpcError Json)
    (watch : Except WatchError Path) : c.Decides n (b.closeHandshake n answer watch) := by
  have hhandlers := (handlers_closeHandshake b.client b.session answer).trans h.handlers
  rw [closeHandshake]
  split
  · rename_i client s e hclose
    rw [hclose] at hhandlers
    refine Beside.discards ?_ (isFailure_editor _)
    exact ⟨h.calls, h.notices, hhandlers⟩
  · rename_i client s answer hclose
    rw [hclose] at hhandlers
    have hanswered : c.Beside { b with client, session := s } := ⟨h.calls, h.notices, hhandlers⟩
    have hnoted := hanswered.noteAt Log.editorTarget (initializedLine answer)
    split
    · exact hnoted.discards (isFailure_watch _)
    · rename_i root
      have hcalls : b.calls.set n (.start .launched) = c.calls.set n (.start .launched) := by
        rw [h.calls]
      exact ⟨.goesOn hcalls (by simp [StartStage.rank]) (by simp)
        ((notices_watchBegun _ b.config root).trans hnoted.notices), hhandlers⟩

end Start

/-- A start whose server cannot be launched has failed, unless it was given up before. -/
lemma decides_launch {outcome : Except SystemError Nat} (h : c.launch n outcome = some d) :
    (∃ s : StartStage, c.calls[n]? = some (.start s) ∧ s.isInside = true) ∧ c.Decides n d := by
  have hrefl : c.Beside c := ⟨rfl, rfl, rfl⟩
  rw [launch] at h
  split at h
  · rename_i hc
    refine ⟨⟨_, hc, rfl⟩, ?_⟩
    split at h
    · cases h
      exact hrefl.givesUp
    · split at h
      · cases h
        exact hrefl.fails (isFailure_badRoot _)
      · have hnoted := hrefl.noteAt Log.processTarget
          (Log.info ("Starting server process: " ++ c.config.command.display))
        simp only at h
        split at h <;> cases h
        · refine Beside.fails ?_ (isFailure_process _)
          exact ⟨rfl, hnoted.notices, rfl⟩
        · exact ⟨.goesOn rfl (by simp [StartStage.rank]) (by simp) hnoted.notices, rfl⟩
  · cases h

/-- **A move that may decide a start** decides it or lets it go on. -/
theorem decides_of_move? (hreasoned : c.Reasoned) (hm : m.decides? = some n)
    (h : c.move? m = some d) :
    (∃ s : StartStage, c.calls[n]? = some (.start s) ∧ s.isInside = true) ∧ c.Decides n d := by
  have hrefl : c.Beside c := ⟨rfl, rfl, rfl⟩
  cases m with
  | launch k outcome =>
    cases hm
    exact decides_launch h
  | sendInitialize k =>
    cases hm
    simp only [move?, sendInitialize] at h
    split at h <;> cases h
    rename_i root hc
    exact ⟨⟨_, hc, rfl⟩, decides_openHandshake root⟩
  | abortStart k =>
    cases hm
    simp only [move?, abortStart] at h
    have hdropped : c.Beside c.dropClient.killServer := ⟨rfl, rfl, rfl⟩
    split at h
    · cases h
    · split at h <;> cases h <;> rename_i hc <;> exact ⟨⟨_, hc, rfl⟩, hdropped.givesUp⟩
  | finishInitialize k watch =>
    cases hm
    simp only [move?, finishInitialize] at h
    split at h
    · rename_i hc
      split at h
      · cases h
      · obtain ⟨wake, -, rfl⟩ := Option.map_eq_some_iff.1 h
        exact ⟨⟨_, hc, rfl⟩, hrefl.closesHandshake _ _⟩
    · cases h
  | expireInitialize k =>
    cases hm
    simp only [move?, expireInitialize] at h
    split at h
    · rename_i hc
      split at h <;> cases h
      refine ⟨⟨_, hc, rfl⟩, Beside.closesHandshake ?_ _ _⟩
      exact ⟨rfl, rfl, rfl⟩
    · cases h
  | finishDiscard k =>
    cases hm
    simp only [move?, finishDiscard] at h
    split at h
    · rename_i e hc
      split at h <;> cases h
      refine ⟨⟨_, hc, rfl⟩, Beside.fails ?_ (hreasoned _ _ hc)⟩
      exact ⟨rfl, rfl, rfl⟩
    · cases h
  | _ => cases hm

/-! ## One start is decided -/

namespace Life

variable {l l' : Life}

/-- The call is a start that was decided: it is over, and it was not refused. -/
def Decided (l : Life) (n : Nat) : Prop :=
  ∃ result, l.calls[n]? = some (.start (.done result))
    ∧ result ≠ .error .alreadyStarted ∧ result ≠ .error .stopped

lemma Sound.phase_of_decided (h : l.Sound) (hn : l.Decided n) : l.phase ≠ .idle := by
  obtain ⟨result, hc, -⟩ := hn
  have hfits := (h.fits n _ hc).1
  cases result with
  | ok => exact hfits
  | error e => exact hfits.1

/-- A start that is decided by a move held the lock of an idle connection, and the move was its
turn. -/
lemma decided_step (h : l.Sound) (hstep : l.Step m l') (hn : l'.Decided n) :
    l.Decided n ∨ l.phase = .idle ∧ m.call? = some n := by
  obtain ⟨result, hc, hstarted, hstopped⟩ := hn
  cases turns_of_step hstep with
  | aside _ hcalls => exact .inl ⟨result, hcalls ▸ hc, hstarted, hstopped⟩
  | begins _ hcalls hnew =>
    rcases getElem?_begun (hcalls ▸ hc) with hc | rfl
    · exact .inl ⟨result, hc, hstarted, hstopped⟩
    · cases hnew
  | @turn k old new hm hold hcalls hnext =>
    rcases getElem?_turned (hcalls ▸ hc) with ⟨-, hc⟩ | ⟨rfl, rfl⟩
    · exact .inl ⟨result, hc, hstarted, hstopped⟩
    · refine .inr ⟨?_, hm⟩
      cases old with
      | start s =>
        cases hs : s.isInside with
        | true => exact (h.start hold hs).2.1
        | false =>
          cases s with
          | waiting =>
            rcases hnext with ⟨hentered, -⟩ | ⟨hsame, -⟩ | ⟨hsame, -⟩
            · cases hentered
            · cases hsame
              exact absurd rfl hstarted
            · cases hsame
              exact absurd rfl hstopped
          | done => exact hnext.elim
          | _ => cases hs
      | stop => exact hnext.elim
      | document => exact hnext.elim

/-- A start that is over stays over. -/
lemma done_step {result : Except ConnectionError Unit} (hstep : l.Step m l')
    (hc : l.calls[n]? = some (.start (.done result))) :
    l'.calls[n]? = some (.start (.done result)) := by
  cases becomes_of_step hstep n with
  | stays _ hsame => rw [hsame, hc]
  | begins _ hnone => cases hc.symm.trans hnone
  | @turns old new hold _ hnext =>
    cases hold.symm.trans hc
    cases new <;> exact hnext.elim

/-- The start has failed with this error, or ends the server because of it. -/
def FailsWith (e : ConnectionError) (s : StartStage) : Prop :=
  s = .discarding e ∨ s = .done (.error e) ∧ IsFailure e

/-- No start fails by a move that decides none. -/
lemma failsWith_step {s : StartStage} {e : ConnectionError} (hstep : l.Step m l')
    (hm : m.decides? = none) (hs : FailsWith e s)
    (hc : l'.calls[n]? = some (.start s)) : l.calls[n]? = some (.start s) := by
  have hset : ∀ {k : Nat} {new : Call}, (l.calls.set k new)[n]? = some (.start s) →
      new ≠ .start s → l.calls[n]? = some (.start s) := by
    intro k new hc hnew
    rcases getElem?_turned hc with ⟨-, hc⟩ | ⟨-, hsame⟩
    · exact hc
    · exact absurd hsame.symm hnew
  have hbegun : ∀ {new : Call}, (l.calls ++ [new])[n]? = some (.start s) →
      new ≠ .start s → l.calls[n]? = some (.start s) :=
    fun hc hnew => (getElem?_begun hc).resolve_right (Ne.symm hnew)
  have hother : ∀ s', ¬ FailsWith e s' → Call.start s' ≠ .start s := by
    rintro s' hs' hsame
    cases hsame
    exact hs' hs
  cases hstep with
  | other | exit | record | report => exact hc
  | callStart => exact hbegun hc (hother _ (by simp [FailsWith]))
  | callStop | callDocument => exact hbegun hc nofun
  | lockForStart | answer | installHandlers | markRunning | checkAlive | finishStart =>
    exact hset hc (hother _ (by simp [FailsWith]))
  | refuseStarted =>
    refine hset hc (hother _ ?_)
    rintro (hsame | ⟨hsame, he⟩) <;> cases hsame
    exact he.1 rfl
  | refuseStopped =>
    refine hset hc (hother _ ?_)
    rintro (hsame | ⟨hsame, he⟩) <;> cases hsame
    exact he.2.1 rfl
  | refrain | misplaced | unlaunched | launch | sendInitialize | finishInitialize | abortStart
  | finishDiscard => cases hm
  | discard _ _ _ hinitializer | collapse _ _ hinitializer =>
    cases m with
    | sendInitialize | finishInitialize | expireInitialize => cases hm
    | _ => cases hinitializer
  | _ => exact hset hc nofun

/-- **One start at most is decided.** -/
lemma decided_unique_step (h : l.Sound) (hunique : ∀ n k, l.Decided n → l.Decided k → n = k)
    (hstep : l.Step m l') {n k : Nat} (hn : l'.Decided n) (hk : l'.Decided k) : n = k := by
  rcases decided_step h hstep hn with hn | ⟨hidle, hturn⟩
  · rcases decided_step h hstep hk with hk | ⟨hidle, -⟩
    · exact hunique n k hn hk
    · exact absurd hidle (h.phase_of_decided hn)
  · rcases decided_step h hstep hk with hk | ⟨-, hturn'⟩
    · exact absurd hidle (h.phase_of_decided hk)
    · exact Option.some.inj (hturn.symm.trans hturn')

end Life

/-! ## What the user was shown -/

/-- What the user was shown, and which start it was about. -/
structure Reported (c : Connection) : Prop where
  sound : c.life.Sound
  tame : Tame c.session.handlers
  reasoned : c.Reasoned
  unique : ∀ n k, c.life.Decided n → c.life.Decided k → n = k
  closed : ∀ n e, c.Failed n e → c.life.Over
  notices : c.notices = [] ∧ (∀ n e, ¬ c.Failed n e) ∨ ∃ n e, c.Failed n e ∧ c.notices = [notice e]

lemma Failed.decided {e : ConnectionError} (h : c.Failed n e) : c.life.Decided n :=
  ⟨_, h.1, fun hsame => h.2.1 (by cases hsame; rfl), fun hsame => h.2.2.1 (by cases hsame; rfl)⟩

lemma reported_new (config : Config) (home : Path) (processId : Nat) :
    (new config home processId).Reported :=
  ⟨sound_new config home processId, tame_none, nofun, nofun, nofun, .inl ⟨rfl, nofun⟩⟩

/-- A start that fails is the first that is decided. -/
lemma Reported.none_failed (h : c.Reported) (hphase : c.phase = .idle) :
    c.notices = [] ∧ ∀ n e, ¬ c.Failed n e := by
  rcases h.notices with hnone | ⟨n, e, hfailed, -⟩
  · exact hnone
  · exact absurd hphase (h.sound.phase_of_decided hfailed.decided)

lemma Reported.aside (h : c.Reported) (hm : m.decides? = none) (hmove : c.move? m = some d) :
    d.Reported := by
  have hstep := step_of_move? hmove
  have hsilent := silent_of_move? h.tame hm hmove
  have hfailed : ∀ {n e}, d.Failed n e → c.Failed n e :=
    fun hfailed => ⟨Life.failsWith_step hstep hm (.inr ⟨rfl, hfailed.2⟩) hfailed.1, hfailed.2⟩
  refine ⟨h.sound.step hstep, hsilent.tame h.tame, fun n e hc => ?_,
    fun n k => Life.decided_unique_step h.sound h.unique hstep,
    fun n e hd => h.sound.over_step (h.closed n e (hfailed hd)) hstep, ?_⟩
  · exact h.reasoned n e (Life.failsWith_step hstep hm (.inl rfl) hc)
  · rw [hsilent.notices]
    refine h.notices.imp (And.imp_right fun hnone n e hd => hnone n e (hfailed hd)) ?_
    rintro ⟨n, e, hfails, hnotices⟩
    exact ⟨n, e, ⟨Life.done_step hstep hfails.1, hfails.2⟩, hnotices⟩

/-- A start that is decided found nothing decided yet. -/
lemma Reported.decide (h : c.Reported) (hm : m.decides? = some n) (hmove : c.move? m = some d) :
    d.Reported := by
  have hstep := step_of_move? hmove
  have hsound := h.sound.step hstep
  obtain ⟨⟨s, hold, hinside⟩, hdecision, hhandlers⟩ := decides_of_move? h.reasoned hm hmove
  -- a start under way finds the connection idle, and one that had failed would have stopped it
  obtain ⟨hnone, hfailed⟩ := h.none_failed (h.sound.start hold hinside).2.1
  have hlater : ∀ {s' : StartStage} {k : Nat} {call : Call}, d.calls = c.calls.set n (.start s') →
      d.calls[k]? = some call → c.calls[k]? = some call ∨ call = .start s' :=
    fun hcalls hc => (Life.getElem?_turned (hcalls ▸ hc)).imp And.right And.right
  have hfirst : ∀ {s' : StartStage} {k : Nat} {e}, d.calls = c.calls.set n (.start s') →
      d.Failed k e → s' = .done (.error e) := by
    intro s' k e hcalls hfails
    rcases hlater hcalls hfails.1 with hc | hsame
    · exact absurd ⟨hc, hfails.2⟩ (hfailed k e)
    · cases hsame
      rfl
  have hreasoned : ∀ {s' : StartStage}, d.calls = c.calls.set n (.start s') →
      (∀ e, s' = .discarding e → IsFailure e) → d.Reasoned := by
    intro s' hcalls hreason k e hc
    rcases hlater hcalls hc with hc | hsame
    · exact h.reasoned k e hc
    · exact hreason e (Call.start.inj hsame).symm
  have hunique := fun n k => Life.decided_unique_step (n := n) (k := k) h.sound h.unique hstep
  have htame : Tame d.session.handlers := hhandlers ▸ h.tame
  cases hdecision with
  | goesOn hcalls hs hreason hnotices =>
    have hnever : ∀ k e, ¬ d.Failed k e := by
      intro k e hfails
      cases hfirst hcalls hfails
      exact hs rfl
    exact ⟨hsound, htame, hreasoned hcalls hreason, hunique,
      fun k e hfails => absurd hfails (hnever k e), .inl ⟨hnotices.trans hnone, hnever⟩⟩
  | gaveUp hcalls hnotices =>
    have hnever : ∀ k e, ¬ d.Failed k e := by
      intro k e hfails
      cases hfirst hcalls hfails
      exact hfails.2.2.2 rfl
    exact ⟨hsound, htame, hreasoned hcalls nofun, hunique,
      fun k e hfails => absurd hfails (hnever k e), .inl ⟨hnotices.trans hnone, hnever⟩⟩
  | @failed e he hcalls hnotices hleft =>
    have hn : n < c.calls.length := (List.getElem?_eq_some_iff.1 hold).1
    have hfails : d.Failed n e := ⟨by rw [hcalls, List.getElem?_set_self hn], he⟩
    refine ⟨hsound, htame, hreasoned hcalls nofun, hunique,
      fun k e _ => (hsound.free hleft.2).stopped hleft.1, .inr ⟨n, e, hfails, ?_⟩⟩
    rw [hnotices, hnone, List.nil_append]

lemma Reported.later (h : c.Reported) (hd : Reachable c d) : d.Reported := by
  induction hd with
  | refl => exact h
  | step m _ hmove ih =>
    cases hm : m.decides? with
    | none => exact ih.aside hm hmove
    | some n => exact ih.decide hm hmove

/-- What a start came to stays. -/
lemma Reachable.done {result : Except ConnectionError Unit} (h : Reachable c d)
    (hc : c.calls[n]? = some (.start (.done result))) :
    d.calls[n]? = some (.start (.done result)) := by
  induction h with
  | refl => exact hc
  | step m _ hmove ih => exact Life.done_step (step_of_move? hmove) ih

/-- A failed start is reported once: what the user was shown by a connection. -/
structure ReportsOnce (c : Connection) : Prop where
  /-- The user was shown one notice at most. -/
  atMostOne : c.notices.length ≤ 1
  /-- Whatever the user was shown is what a start came to that failed, and that was shown. -/
  told : ∀ text, text ∈ c.notices ↔ ∃ n e, c.Failed n e
    ∧ text = "Couldn't start client confit-lsp: " ++ e.failure.message
  /-- One start at most failed. -/
  once : ∀ n e k e', c.Failed n e → c.Failed k e' → n = k ∧ e = e'
  /-- A start that failed has left the connection stopped for good, with nothing that is taken to be
  running and no child alive. -/
  left : ∀ n e, c.Failed n e → ∀ d, Reachable c d → d.phase = .stopped ∧ d.running = false
    ∧ d.process.isRunning = false ∧ ∀ child ∈ d.process.children, child.ending.isSome = true
  /-- Where a start was given up for a stop the user is never shown anything. -/
  cancelled : ∀ n : Nat, c.calls[n]? = some (.start (.done (.error .cancelled))) →
    ∀ d, Reachable c d → d.notices = []

/-- **A failed start is reported once**, whatever starts and stops race on a connection. -/
theorem reachable_reportsOnce {config : Config} {home : Path} {processId : Nat}
    (h : Reachable (new config home processId) c) : ReportsOnce c := by
  have hreported := (reported_new config home processId).later h
  have honce : ∀ n e k e', c.Failed n e → c.Failed k e' → n = k ∧ e = e' := by
    intro n e k e' hn hk
    obtain rfl := hreported.unique n k hn.decided hk.decided
    cases hn.1.symm.trans hk.1
    exact ⟨rfl, rfl⟩
  constructor
  case atMostOne =>
    rcases hreported.notices with ⟨hnone, -⟩ | ⟨n, e, -, hone⟩
    · simp [hnone]
    · simp [hone]
  case told =>
    intro text
    rcases hreported.notices with ⟨hnone, hfailed⟩ | ⟨n, e, hfails, hone⟩
    · refine iff_of_false (by simp [hnone]) ?_
      rintro ⟨n, e, hfails, -⟩
      exact hfailed n e hfails
    · rw [hone, List.mem_singleton]
      constructor
      · rintro rfl
        exact ⟨n, e, hfails, rfl⟩
      · rintro ⟨k, e', hfails', rfl⟩
        obtain ⟨-, rfl⟩ := honce n e k e' hfails hfails'
        rfl
  case once => exact honce
  case left =>
    intro n e hfails d hd
    -- what is claimed of later states is the invariant there
    have hlater := hreported.later hd
    have hfails' : d.Failed n e := ⟨hd.done hfails.1, hfails.2⟩
    have hover := hlater.closed n e hfails'
    refine ⟨hover.1, hover.2.2.2.1, hover.2.2.2.2, ?_⟩
    exact ((hlater.sound.fits n _ hfails'.1).1.2.resolve_left hfails.2.1).resolve_left hfails.2.2.1
  case cancelled =>
    intro n hc d hd
    have hlater := hreported.later hd
    have hdecided : d.life.Decided n := ⟨_, hd.done hc, nofun, nofun⟩
    rcases hlater.notices with ⟨hnone, -⟩ | ⟨k, e, hfails, -⟩
    · exact hnone
    · obtain rfl := hlater.unique n k hdecided hfails.decided
      cases hfails.1.symm.trans (hd.done hc)
      exact absurd rfl hfails.2.2.2

/-! ## A server that cannot be launched -/

/-- Two starts race for a server whose program is not there; the second comes after the first. -/
def barren : List Move :=
  [.callStart, .callStart, .lockForStart 0, .launch 0 (.error (.numbered 2)), .lockForStart 1,
    .callStop, .cancelStart 2, .lockForStop 2]

set_option maxRecDepth 4000 in
theorem reportsOnce_barren : ∃ c, Reachable workshop c
    ∧ c.calls = [.start (.done (.error (.process (.spawn "confit-lsp" (.numbered 2))))),
      .start (.done (.error .stopped)), .stop (.done (.ok ()))]
    ∧ c.notices = ["Couldn't start client confit-lsp: Process error: Failed to spawn confit-lsp: "
      ++ "No such file or directory (os error 2)"] ∧ ReportsOnce c := by
  have hrun : workshop.moves? barren = some _ := rfl
  have hreach := Reachable.refl.moves? hrun
  exact ⟨_, hreach, rfl, rfl, reachable_reportsOnce hreach⟩

end ServerLink.Connection
