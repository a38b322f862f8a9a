import Mathlib
import ServerLink.Connection.Move

/-!
# The life of a connection

`Life` is the part of a connection that its life depends on: the phase, the locks, the documents,
the process and how far each call is.  What is said to the server, shown or logged is left out.

* **`step_of_move?`** — `Life.Step l m l'` says what a move does to this part and under which
  condition, and nothing else can happen.  Whatever is proved of starts and stops goes by cases on
  it.
* **`Life.turns_of_step`** — `Life.Next` says what a call can come to next and by which move of its
  own.  A move is the turn of one call at most, and brings it nearer to its end
  (`Life.Next.rank_lt`).
-/

namespace ServerLink.Connection

open Process

/-- The part of a connection that its life depends on. -/
structure Life where
  phase : Phase
  holder : Option Nat
  speaker : Option Nat
  cancelled : Bool
  running : Bool
  documents : List Url
  process : Supervisor
  launches : Nat
  calls : List Call

def life (c : Connection) : Life :=
  ⟨c.phase, c.holder, c.speaker, c.cancelled, c.running, c.documents, c.process, c.launches,
    c.calls⟩

/-- The server was launched, and the start has not yet failed or come to its end. -/
def StartStage.isUnderWay : StartStage → Bool
  | .spawned _ | .answering _ | .equipped _ | .initializing _ => true
  | _ => false

/-- A move that changes nothing of the life of a connection. -/
def Move.isOther : Move → Bool
  | .receiveBatch _ | .forward | .loop _ | .readStderr _ => true
  | _ => false

/-- The start whose handshake the move is about. -/
def Move.initializer? : Move → Option Nat
  | .sendInitialize n | .finishInitialize n _ | .expireInitialize n => some n
  | _ => none

/-- The call about a document whose turn the move is. -/
def Move.reporter? : Move → Option Nat
  | .filterDocument n | .checkRunning n | .sendDocument n => some n
  | _ => none

/-- The call whose turn the move is. -/
def Move.call? : Move → Option Nat
  | .lockForStart n | .launch n _ | .installHandlers n | .sendInitialize n | .abortStart n
  | .finishInitialize n _ | .expireInitialize n | .finishDiscard n | .markRunning n | .checkAlive n
  | .finishStart n => some n
  | .cancelStart n | .lockForStop n | .stopWatching n | .sendShutdown n | .finishShutdown n
  | .expireShutdown n | .flush n | .close n _ | .checkProcess n | .stopProcess n
  | .awaitExit n _ => some n
  | .filterDocument n | .checkRunning n | .sendDocument n => some n
  | _ => none

/-! ## How far a call is from its end -/

/-- How many moves a start can still make. -/
def StartStage.rank : StartStage → Nat
  | .waiting => 9
  | .entered => 8
  | .spawned _ => 7
  | .answering _ => 6
  | .equipped _ => 5
  | .initializing _ => 4
  | .launched => 3
  | .marked => 2
  | .checked _ | .discarding _ => 1
  | .done _ => 0

/-- How many moves a stop can still make. -/
def StopStage.rank : StopStage → Nat
  | .called => 10
  | .waiting => 9
  | .taken => 8
  | .unwatched => 7
  | .shuttingDown _ => 6
  | .shutDown => 5
  | .flushing _ => 4
  | .closed => 3
  | .leaving => 2
  | .ending => 1
  | .done _ => 0

/-- How many moves a call about a document can still make. -/
def DocumentStage.rank : DocumentStage → Nat
  | .asked _ => 3
  | .known _ => 2
  | .passed _ => 1
  | .done _ => 0

/-- How many moves a call can still make. -/
def Call.rank : Call → Nat
  | .start s => s.rank
  | .stop s => s.rank
  | .document s => s.rank

namespace Life

/-- Puts a call into another stage. -/
def put (l : Life) (n : Nat) (call : Call) : Life := { l with calls := l.calls.set n call }

/-- A start fails: the connection is stopped. -/
def failed (l : Life) (n : Nat) (e : ConnectionError) : Life :=
  { l.put n (.start (.done (.error e))) with phase := .stopped, holder := none }

/-- A stop is over. -/
def left (l : Life) (n : Nat) (result : Except ConnectionError Unit) : Life :=
  { l.put n (.stop (.done result)) with holder := none }

/-- The move `m` turns `l` into the other life. -/
inductive Step (l : Life) : Move → Life → Prop where
  | other {m : Move} (hother : m.isOther = true) : Step l m l
  | callStart : Step l .callStart { l with calls := l.calls ++ [.start .waiting] }
  | callStop : Step l .callStop { l with calls := l.calls ++ [.stop .called] }
  | callDocument (r : Report) :
      Step l (.callDocument r) { l with calls := l.calls ++ [.document (.asked r)] }
  | document {m : Move} {n : Nat} {s s' : DocumentStage} (urls : List Url)
      (hc : l.calls[n]? = some (.document s)) (hm : m.reporter? = some n)
      (hless : s'.rank < s.rank) (hurls : m ≠ .sendDocument n → l.documents = [] → urls = []) :
      Step l m { l.put n (.document s') with documents := urls }
  | lockForStart {n : Nat} (hc : l.calls[n]? = some (.start .waiting)) (hfree : l.holder = none)
      (hphase : l.phase = .idle) :
      Step l (.lockForStart n) { l.put n (.start .entered) with holder := some n }
  | refuseStarted {n : Nat} (hc : l.calls[n]? = some (.start .waiting)) (hfree : l.holder = none)
      (hphase : l.phase = .running) :
      Step l (.lockForStart n) (l.put n (.start (.done (.error .alreadyStarted))))
  | refuseStopped {n : Nat} (hc : l.calls[n]? = some (.start .waiting)) (hfree : l.holder = none)
      (hphase : l.phase = .stopped) :
      Step l (.lockForStart n) (l.put n (.start (.done (.error .stopped))))
  | refrain {n : Nat} {outcome : Except SystemError Nat}
      (hc : l.calls[n]? = some (.start .entered)) (hasked : l.cancelled = true) :
      Step l (.launch n outcome) (l.failed n .cancelled)
  | misplaced {n : Nat} {outcome : Except SystemError Nat} (root : Path)
      (hc : l.calls[n]? = some (.start .entered)) (hasked : l.cancelled = false) :
      Step l (.launch n outcome) (l.failed n (.badRoot root))
  | unlaunched {n : Nat} {outcome : Except SystemError Nat} (e : ProcessError)
      (hc : l.calls[n]? = some (.start .entered)) (hasked : l.cancelled = false) :
      Step l (.launch n outcome) { l.failed n (.process e) with launches := l.launches + 1 }
  | launch {n pid : Nat} (root : Url) (hc : l.calls[n]? = some (.start .entered))
      (hasked : l.cancelled = false) (hidle : l.process.isRunning = false) :
      Step l (.launch n (.ok pid)) { l.put n (.start (.spawned root)) with
        launches := l.launches + 1
        process := (l.process.move (.launch pid)).takePipe.1 }
  | answer {n : Nat} {root : Url} (hc : l.calls[n]? = some (.start (.spawned root))) :
      Step l (.installHandlers n) (l.put n (.start (.answering root)))
  | installHandlers {n : Nat} {root : Url} (hc : l.calls[n]? = some (.start (.answering root))) :
      Step l (.installHandlers n) (l.put n (.start (.equipped root)))
  | sendInitialize {n : Nat} {root : Url} (id : Nat)
      (hc : l.calls[n]? = some (.start (.equipped root))) :
      Step l (.sendInitialize n) (l.put n (.start (.initializing id)))
  | finishInitialize {n id : Nat} {watch : Except WatchError Path}
      (hc : l.calls[n]? = some (.start (.initializing id))) :
      Step l (.finishInitialize n watch) (l.put n (.start .launched))
  | discard {m : Move} {n pid : Nat} {s : StartStage} (e : ConnectionError)
      (hc : l.calls[n]? = some (.start s)) (hs : s.isUnderWay = true) (hm : m.initializer? = some n)
      (hpid : l.process.state.pid? = some pid) :
      Step l m { l.put n (.start (.discarding e)) with process := l.process.move (.exit pid none) }
  | collapse {m : Move} {n : Nat} {s : StartStage} {e : ConnectionError}
      (hc : l.calls[n]? = some (.start s)) (hs : s.isUnderWay = true) (hm : m.initializer? = some n)
      (hpid : l.process.state.pid? = none) : Step l m (l.failed n e)
  | abortStart {n : Nat} {s : StartStage} (hc : l.calls[n]? = some (.start s))
      (hs : s.isUnderWay = true ∨ ∃ e, s = .discarding e) (hasked : l.cancelled = true) :
      Step l (.abortStart n) { l.failed n .cancelled with process := l.process.kill }
  | finishDiscard {n : Nat} {e : ConnectionError} (hc : l.calls[n]? = some (.start (.discarding e)))
      (hasked : l.cancelled = false) :
      Step l (.finishDiscard n) { l.failed n e with process := l.process.finishStop }
  | markRunning {n : Nat} (hc : l.calls[n]? = some (.start .launched)) :
      Step l (.markRunning n) { l.put n (.start .marked) with running := true }
  | checkAlive {n : Nat} (hc : l.calls[n]? = some (.start .marked)) :
      Step l (.checkAlive n) (l.put n (.start (.checked l.process.isRunning)))
  | finishStart {n : Nat} {alive : Bool} (hc : l.calls[n]? = some (.start (.checked alive))) :
      Step l (.finishStart n) { l.put n (.start (.done (.ok ()))) with
        phase := .running, holder := none, running := alive && l.running }
  | cancelStart {n : Nat} (hc : l.calls[n]? = some (.stop .called)) :
      Step l (.cancelStart n) { l.put n (.stop .waiting) with cancelled := true }
  | lockForStop {n : Nat} (hc : l.calls[n]? = some (.stop .waiting)) (hfree : l.holder = none)
      (hphase : l.phase = .running) :
      Step l (.lockForStop n) { l.put n (.stop .taken) with
        phase := .stopped, running := false, documents := [], holder := some n }
  | rest {n : Nat} (hc : l.calls[n]? = some (.stop .waiting)) (hfree : l.holder = none)
      (hphase : l.phase ≠ .running) :
      Step l (.lockForStop n) { l.left n (.ok ()) with
        phase := .stopped, running := false, documents := [] }
  | stopWatching {n : Nat} (hc : l.calls[n]? = some (.stop .taken)) :
      Step l (.stopWatching n) (l.put n (.stop .unwatched))
  | sendShutdown {n : Nat} {s : StopStage} (hc : l.calls[n]? = some (.stop .unwatched))
      (hfree : l.speaker = none) (hs : s = .shutDown ∨ ∃ id, s = .shuttingDown id) :
      Step l (.sendShutdown n) { l.put n (.stop s) with speaker := some n }
  | finishShutdown {m : Move} {n id : Nat} (hc : l.calls[n]? = some (.stop (.shuttingDown id)))
      (hm : m = .finishShutdown n ∨ m = .expireShutdown n) : Step l m (l.put n (.stop .shutDown))
  | flush {n : Nat} (ticket : Option Nat) (hc : l.calls[n]? = some (.stop .shutDown)) :
      Step l (.flush n) (l.put n (.stop (.flushing ticket)))
  | close {n : Nat} {late : Bool} {ticket : Option Nat}
      (hc : l.calls[n]? = some (.stop (.flushing ticket))) :
      Step l (.close n late) { l.put n (.stop .closed) with speaker := none }
  | checkProcess {n : Nat} (hc : l.calls[n]? = some (.stop .closed))
      (halive : l.process.isRunning = true) :
      Step l (.checkProcess n) (l.put n (.stop .leaving))
  | leave {n : Nat} (hc : l.calls[n]? = some (.stop .closed))
      (halive : l.process.isRunning = false) : Step l (.checkProcess n) (l.left n (.ok ()))
  | stopProcess {n : Nat} (hc : l.calls[n]? = some (.stop .leaving))
      (halive : l.process.isRunning = true) :
      Step l (.stopProcess n) { l.put n (.stop .ending) with process := l.process.move .closePipe }
  | miss {n : Nat} (hc : l.calls[n]? = some (.stop .leaving))
      (halive : l.process.isRunning = false) :
      Step l (.stopProcess n) (l.left n (.error (.process .notStarted)))
  | awaitExit {n : Nat} {late : Bool} (hc : l.calls[n]? = some (.stop .ending)) :
      Step l (.awaitExit n late) { l.left n (.ok ()) with process := l.process.finishStop }
  | exit {pid : Nat} {code : Option Nat} {p : Supervisor}
      (hp : l.process.move? (.exit pid code) = some p) :
      Step l (.exit pid code) { l with process := p }
  | record {pid : Nat} {p : Supervisor} (hp : l.process.move? (.record pid) = some p) :
      Step l (.record pid) { l with process := p }
  | report {pid : Nat} {p : Supervisor} (hp : l.process.move? (.tell pid) = some p) :
      Step l (.report pid) { l with process := p, running := false }

end Life

variable {c d : Connection} {m : Move}

lemma life_failStart (c : Connection) (n : Nat) (e : ConnectionError) :
    (c.failStart n e).life = c.life.failed n e := by
  cases e <;> rfl

/-- A start that fails ends the server first, if it is known to be running. -/
lemma step_discard {n : Nat} {s : StartStage} {e : ConnectionError} {l : Life}
    (hl : c.life = l) (hc : l.calls[n]? = some (.start s)) (hs : s.isUnderWay = true)
    (hm : m.initializer? = some n) : l.Step m (c.discard n e).life := by
  subst hl
  rw [discard]
  split
  · exact .discard e hc hs hm ‹_›
  · rw [life_failStart]
    exact .collapse hc hs hm ‹_›

lemma step_openHandshake {n : Nat} {root : Url}
    (hc : c.life.calls[n]? = some (.start (.equipped root))) :
    c.life.Step (.sendInitialize n) (c.openHandshake n root).life := by
  rw [openHandshake]
  split
  · exact step_discard rfl hc rfl rfl
  · split
    · exact .sendInitialize _ hc
    · exact step_discard rfl hc rfl rfl

lemma step_closeHandshake {n id : Nat} (answer : Except RpcError Json)
    (watch : Except WatchError Path) (hc : c.life.calls[n]? = some (.start (.initializing id))) :
    c.life.Step (.finishInitialize n watch) (c.closeHandshake n answer watch).life := by
  rw [closeHandshake]
  split
  · exact step_discard rfl hc rfl rfl
  · split
    · exact step_discard rfl hc rfl rfl
    · exact .finishInitialize hc

lemma step_closeFarewell {n id : Nat} (answer : Except RpcError Json) {l : Life} (hl : c.life = l)
    (hc : l.calls[n]? = some (.stop (.shuttingDown id)))
    (hm : m = .finishShutdown n ∨ m = .expireShutdown n) :
    l.Step m (c.closeFarewell n answer).life := by
  subst hl
  rw [closeFarewell]
  split
  · exact .finishShutdown hc hm
  · exact .finishShutdown hc hm

section Start

variable {n : Nat}

lemma step_lockForStart (h : c.lockForStart n = some d) : c.life.Step (.lockForStart n) d.life := by
  rw [lockForStart] at h
  split at h
  · rename_i hc hfree
    split at h
    · cases h; exact .lockForStart hc hfree ‹_›
    · cases h; exact .refuseStarted hc hfree ‹_›
    · cases h; exact .refuseStopped hc hfree ‹_›
  · exact absurd h (by simp)

lemma step_launch {outcome : Except SystemError Nat} (h : c.launch n outcome = some d) :
    c.life.Step (.launch n outcome) d.life := by
  rw [launch] at h
  split at h
  · rename_i hc
    split at h
    · rename_i hasked
      cases h
      rw [life_failStart]
      exact .refrain hc hasked
    · rename_i hasked
      rw [Bool.not_eq_true] at hasked
      split at h
      · cases h
        rw [life_failStart]
        exact .misplaced _ hc hasked
      · rename_i root _
        cases hidle : c.process.isRunning with
        | true =>
          simp only [noteAt, Supervisor.start, hidle, if_true, Option.some.injEq] at h
          subst h
          rw [life_failStart]
          exact .unlaunched .alreadyStarted hc hasked
        | false =>
          cases outcome with
          | error e =>
            simp only [noteAt, Supervisor.start, hidle, Bool.false_eq_true, if_false,
              Option.some.injEq] at h
            subst h
            rw [life_failStart]
            exact .unlaunched (.spawn _ e) hc hasked
          | ok pid =>
            simp only [noteAt, Supervisor.start, hidle, Bool.false_eq_true, if_false,
              Option.some.injEq] at h
            subst h
            exact .launch root hc hasked hidle
  · exact absurd h (by simp)

lemma step_installHandlers (h : c.installHandlers n = some d) :
    c.life.Step (.installHandlers n) d.life := by
  rw [installHandlers] at h
  split at h
  · cases h; exact .answer ‹_›
  · cases h; exact .installHandlers ‹_›
  · exact absurd h (by simp)

lemma step_sendInitialize (h : c.sendInitialize n = some d) :
    c.life.Step (.sendInitialize n) d.life := by
  rw [sendInitialize] at h
  split at h
  · cases h; exact step_openHandshake ‹_›
  · exact absurd h (by simp)

lemma step_abortStart (h : c.abortStart n = some d) : c.life.Step (.abortStart n) d.life := by
  rw [abortStart] at h
  split at h
  · exact absurd h (by simp)
  · rename_i hasked
    rw [Bool.not_eq_true, Bool.not_eq_false'] at hasked
    have hstep : ∀ s, c.calls[n]? = some (.start s) →
        (s.isUnderWay = true ∨ ∃ e, s = .discarding e) →
        c.life.Step (.abortStart n) (c.dropClient.killServer.failStart n .cancelled).life := by
      intro s hc hs
      rw [life_failStart]
      exact .abortStart hc hs hasked
    split at h
    · cases h; exact hstep _ ‹_› (.inl rfl)
    · cases h; exact hstep _ ‹_› (.inl rfl)
    · cases h; exact hstep _ ‹_› (.inl rfl)
    · cases h; exact hstep _ ‹_› (.inl rfl)
    · cases h; exact hstep _ ‹_› (.inr ⟨_, rfl⟩)
    · exact absurd h (by simp)

lemma step_finishInitialize {watch : Except WatchError Path}
    (h : c.finishInitialize n watch = some d) :
    c.life.Step (.finishInitialize n watch) d.life := by
  rw [finishInitialize] at h
  split at h
  · split at h
    · exact absurd h (by simp)
    · obtain ⟨wake, -, rfl⟩ := Option.map_eq_some_iff.1 h
      exact step_closeHandshake _ watch ‹_›
  · exact absurd h (by simp)

lemma step_expireInitialize (h : c.expireInitialize n = some d) :
    c.life.Step (.expireInitialize n) d.life := by
  rw [expireInitialize] at h
  split at h
  · split at h
    · exact absurd h (by simp)
    · cases h
      exact step_discard rfl ‹_› rfl rfl
  · exact absurd h (by simp)

lemma step_finishDiscard (h : c.finishDiscard n = some d) :
    c.life.Step (.finishDiscard n) d.life := by
  rw [finishDiscard] at h
  split at h
  · split at h
    · exact absurd h (by simp)
    · rename_i hasked
      cases h
      rw [life_failStart]
      exact .finishDiscard ‹_› (Bool.not_eq_true _ ▸ hasked)
  · exact absurd h (by simp)

lemma step_markRunning (h : c.markRunning n = some d) : c.life.Step (.markRunning n) d.life := by
  rw [markRunning] at h
  split at h
  · cases h; exact .markRunning ‹_›
  · exact absurd h (by simp)

lemma step_checkAlive (h : c.checkAlive n = some d) : c.life.Step (.checkAlive n) d.life := by
  rw [checkAlive] at h
  split at h
  · cases h; exact .checkAlive ‹_›
  · exact absurd h (by simp)

lemma step_finishStart (h : c.finishStart n = some d) : c.life.Step (.finishStart n) d.life := by
  rw [finishStart] at h
  split at h
  · rename_i alive hc
    have hstep : c.life.Step (.finishStart n) _ := .finishStart hc
    cases h
    cases alive <;> exact hstep
  · exact absurd h (by simp)

end Start

section Stop

variable {n : Nat}

lemma step_cancelStart (h : c.cancelStart n = some d) : c.life.Step (.cancelStart n) d.life := by
  rw [cancelStart] at h
  split at h
  · cases h; exact .cancelStart ‹_›
  · exact absurd h (by simp)

lemma step_lockForStop (h : c.lockForStop n = some d) : c.life.Step (.lockForStop n) d.life := by
  rw [lockForStop] at h
  split at h
  · rename_i hc hfree
    split at h
    · cases h; exact .lockForStop hc hfree ‹_›
    · rename_i hphase
      cases h; exact .rest hc hfree (by show c.phase ≠ _; simp [hphase])
    · rename_i hphase
      cases h; exact .rest hc hfree (by show c.phase ≠ _; simp [hphase])
  · exact absurd h (by simp)

lemma step_stopWatching (h : c.stopWatching n = some d) : c.life.Step (.stopWatching n) d.life := by
  rw [stopWatching] at h
  split at h
  · exact absurd h (by simp)
  · cases h; exact .stopWatching ‹_›
  · exact absurd h (by simp)

lemma step_sendShutdown (h : c.sendShutdown n = some d) : c.life.Step (.sendShutdown n) d.life := by
  rw [sendShutdown] at h
  split at h
  · rename_i hc
    split at h
    · exact absurd h (by simp)
    · rename_i hfree
      rw [Bool.not_eq_true, Option.isSome_eq_false_iff, Option.isNone_iff_eq_none] at hfree
      split at h
      · cases h; exact .sendShutdown hc hfree (.inl rfl)
      · split at h
        · cases h; exact .sendShutdown hc hfree (.inr ⟨_, rfl⟩)
        · cases h; exact .sendShutdown hc hfree (.inl rfl)
  · exact absurd h (by simp)

lemma step_finishShutdown (h : c.finishShutdown n = some d) :
    c.life.Step (.finishShutdown n) d.life := by
  rw [finishShutdown] at h
  split at h
  · obtain ⟨wake, -, rfl⟩ := Option.map_eq_some_iff.1 h
    exact step_closeFarewell _ rfl ‹_› (.inl rfl)
  · exact absurd h (by simp)

lemma step_expireShutdown (h : c.expireShutdown n = some d) :
    c.life.Step (.expireShutdown n) d.life := by
  rw [expireShutdown] at h
  split at h
  · split at h
    · exact absurd h (by simp)
    · cases h; exact step_closeFarewell _ rfl ‹_› (.inr rfl)
  · exact absurd h (by simp)

lemma step_flush (h : c.flush n = some d) : c.life.Step (.flush n) d.life := by
  rw [flush] at h
  split at h
  · split at h
    · cases h; exact .flush _ ‹_›
    · cases h; exact .flush _ ‹_›
  · exact absurd h (by simp)

lemma step_close {late : Bool} (h : c.close n late = some d) :
    c.life.Step (.close n late) d.life := by
  rw [close] at h
  split at h
  · split at h
    · cases h; exact .close ‹_›
    · exact absurd h (by simp)
  · exact absurd h (by simp)

lemma step_checkProcess (h : c.checkProcess n = some d) : c.life.Step (.checkProcess n) d.life := by
  rw [checkProcess] at h
  split at h
  · rename_i hc
    cases halive : c.process.isRunning with
    | true =>
      rw [halive] at h
      cases h; exact .checkProcess hc halive
    | false =>
      rw [halive] at h
      cases h; exact .leave hc halive
  · exact absurd h (by simp)

lemma step_stopProcess (h : c.stopProcess n = some d) : c.life.Step (.stopProcess n) d.life := by
  rw [stopProcess] at h
  split at h
  · rename_i hc
    cases hpid : c.process.state.pid? with
    | none =>
      simp only [Supervisor.beginStop, hpid, Option.some.injEq] at h
      subst h
      exact .miss hc (by show c.process.state.pid?.isSome = false; rw [hpid]; rfl)
    | some pid =>
      simp only [Supervisor.beginStop, hpid, Option.some.injEq] at h
      subst h
      exact .stopProcess hc (by show c.process.state.pid?.isSome = true; rw [hpid]; rfl)
  · exact absurd h (by simp)

lemma step_awaitExit {late : Bool} (h : c.awaitExit n late = some d) :
    c.life.Step (.awaitExit n late) d.life := by
  rw [awaitExit] at h
  split at h
  · split at h
    · cases h; exact .awaitExit ‹_›
    · exact absurd h (by simp)
  · exact absurd h (by simp)

end Stop

section Document

variable {n : Nat}

lemma step_filterDocument (h : c.filterDocument n = some d) :
    c.life.Step (.filterDocument n) d.life := by
  rw [filterDocument] at h
  split at h
  · rename_i r hc
    rcases ite_eq_iff.1 h with ⟨-, h⟩ | ⟨-, h⟩
    · cases h
      exact .document _ hc rfl (by simp [DocumentStage.rank]) fun _ hnone => hnone
    · have hstep : ∀ urls, (c.documents = [] → urls = []) → c.life.Step (.filterDocument n)
          { c.life.put n (.document (.known r)) with documents := urls } :=
        fun urls hurls => .document urls hc rfl (by simp [DocumentStage.rank]) fun _ => hurls
      cases h
      cases r with
      | closed url =>
        refine hstep (c.documents.filter (· != url)) fun hnone => ?_
        rw [hnone, List.filter_nil]
      | _ => exact hstep c.documents id
  · exact absurd h (by simp)

lemma step_checkRunning (h : c.checkRunning n = some d) : c.life.Step (.checkRunning n) d.life := by
  rw [checkRunning] at h
  split at h
  · rename_i r hc _
    have hstep : ∀ s : DocumentStage, s.rank < 2 →
        c.life.Step (.checkRunning n) (c.put n (.document s)).life :=
      fun s hs => .document c.documents hc rfl hs fun _ hnone => hnone
    cases h
    split <;> exact hstep _ (by simp [DocumentStage.rank])
  · exact absurd h (by simp)

lemma step_sendDocument (h : c.sendDocument n = some d) : c.life.Step (.sendDocument n) d.life := by
  rw [sendDocument] at h
  split at h
  · rename_i r hc _
    have hstep : ∀ urls result, c.life.Step (.sendDocument n)
        { c.life.put n (.document (.done result)) with documents := urls } :=
      fun urls result => .document urls hc rfl (by simp [DocumentStage.rank])
        fun hm => absurd rfl hm
    split at h
    · cases h; exact hstep _ _
    · cases h
      cases r with
      | opened url language version text =>
        dsimp only
        split <;> exact hstep _ _
      | _ => exact hstep _ _
  · exact absurd h (by simp)

end Document

lemma life_of_other (hother : m.isOther = true) (h : c.move? m = some d) : d.life = c.life := by
  cases m with
  | receiveBatch changes =>
    simp only [move?, receiveBatch] at h
    split at h
    · split at h <;> cases h <;> rfl
    · exact absurd h (by simp)
  | forward =>
    simp only [move?, forward] at h
    split at h
    · split at h <;> cases h <;> rfl
    · exact absurd h (by simp)
  | loop m =>
    simp only [move?] at h
    split at h
    · obtain ⟨s, -, rfl⟩ := Option.map_eq_some_iff.1 h
      rfl
    · exact absurd h (by simp)
  | readStderr line =>
    simp only [move?] at h
    split at h
    · exact absurd h (by simp)
    · cases h
      rfl
  | _ => exact absurd hother (by simp [Move.isOther])

/-- **What a move does to the life of a connection.** -/
theorem step_of_move? (h : c.move? m = some d) : c.life.Step m d.life := by
  cases m with
  | callStart => cases h; exact .callStart
  | callStop => cases h; exact .callStop
  | callDocument r => cases h; exact .callDocument r
  | lockForStart n => exact step_lockForStart h
  | launch n outcome => exact step_launch h
  | installHandlers n => exact step_installHandlers h
  | sendInitialize n => exact step_sendInitialize h
  | abortStart n => exact step_abortStart h
  | finishInitialize n watch => exact step_finishInitialize h
  | expireInitialize n => exact step_expireInitialize h
  | finishDiscard n => exact step_finishDiscard h
  | markRunning n => exact step_markRunning h
  | checkAlive n => exact step_checkAlive h
  | finishStart n => exact step_finishStart h
  | cancelStart n => exact step_cancelStart h
  | lockForStop n => exact step_lockForStop h
  | stopWatching n => exact step_stopWatching h
  | sendShutdown n => exact step_sendShutdown h
  | finishShutdown n => exact step_finishShutdown h
  | expireShutdown n => exact step_expireShutdown h
  | flush n => exact step_flush h
  | close n late => exact step_close h
  | checkProcess n => exact step_checkProcess h
  | stopProcess n => exact step_stopProcess h
  | awaitExit n late => exact step_awaitExit h
  | filterDocument n => exact step_filterDocument h
  | checkRunning n => exact step_checkRunning h
  | sendDocument n => exact step_sendDocument h
  | receiveBatch | forward | loop | readStderr => exact life_of_other rfl h ▸ .other rfl
  | exit pid code =>
    obtain ⟨p, hp, rfl⟩ := Option.map_eq_some_iff.1 h
    exact .exit hp
  | record pid =>
    obtain ⟨p, hp, rfl⟩ := Option.map_eq_some_iff.1 h
    exact .record hp
  | report pid =>
    rw [move?, reportEnd] at h
    obtain ⟨p, hp, rfl⟩ := Option.map_eq_some_iff.1 h
    have hstep : c.life.Step (.report pid) _ := .report hp
    dsimp only
    split <;> exact hstep

namespace Life

variable {l l' : Life} {m : Move} {n : Nat}

/-! ## What a call can come to next -/

/-- A start that has failed, or that ends the server because it has. -/
def Fails (s : StartStage) : Prop := ∃ e, s = .discarding e ∨ s = .done (.error e)

/-- What a start can come to next. -/
def NextStart (l : Life) : StartStage → StartStage → Prop
  | .waiting, s' => s' = .entered ∧ l.phase = .idle
      ∨ s' = .done (.error .alreadyStarted) ∧ l.phase = .running
      ∨ s' = .done (.error .stopped) ∧ l.phase = .stopped
  | .entered, s' => (l.cancelled = true → s' = .done (.error .cancelled))
      ∧ ((∃ root, s' = .spawned root) ∨ ∃ e, s' = .done (.error e))
  | .spawned _, s' => (∃ root, s' = .answering root) ∨ Fails s'
  | .answering _, s' => (∃ root, s' = .equipped root) ∨ Fails s'
  | .equipped _, s' => (∃ id, s' = .initializing id) ∨ Fails s'
  | .initializing _, s' => s' = .launched ∨ Fails s'
  | .discarding _, s' => ∃ e, s' = .done (.error e)
  | .launched, s' => s' = .marked
  | .marked, s' => ∃ alive, s' = .checked alive
  | .checked _, s' => s' = .done (.ok ())
  | .done _, _ => False

/-- What the stop `n` can come to next, and by which move. -/
def NextStop (l : Life) (m : Move) (n : Nat) : StopStage → StopStage → Prop
  | .called, s' => m = .cancelStart n ∧ s' = .waiting
  | .waiting, s' => m = .lockForStop n ∧ (s' = .taken ∨ s' = .done (.ok ()))
  | .taken, s' => m = .stopWatching n ∧ s' = .unwatched
  | .unwatched, s' => m = .sendShutdown n ∧ (s' = .shutDown ∨ ∃ id, s' = .shuttingDown id)
  | .shuttingDown _, s' => (m = .finishShutdown n ∨ m = .expireShutdown n) ∧ s' = .shutDown
  | .shutDown, s' => m = .flush n ∧ ∃ ticket, s' = .flushing ticket
  | .flushing _, s' => (∃ late, m = .close n late) ∧ s' = .closed
  | .closed, s' => m = .checkProcess n ∧ (l.process.isRunning = true ∧ s' = .leaving
      ∨ l.process.isRunning = false ∧ s' = .done (.ok ()))
  | .leaving, s' => m = .stopProcess n ∧ (l.process.isRunning = true ∧ s' = .ending
      ∨ l.process.isRunning = false ∧ s' = .done (.error (.process .notStarted)))
  | .ending, s' => (∃ late, m = .awaitExit n late) ∧ s' = .done (.ok ())
  | .done _, _ => False

/-- What the call `n` can come to next. -/
def Next (l : Life) (m : Move) (n : Nat) : Call → Call → Prop
  | .start s, .start s' => l.NextStart s s'
  | .stop s, .stop s' => l.NextStop m n s s'
  | .document s, .document s' => s'.rank < s.rank
  | _, _ => False

/-- How a call is when it begins. -/
def Begins : Call → Prop
  | .start s => s = .waiting
  | .stop s => s = .called
  | .document s => ∃ r, s = .asked r

lemma Fails.rank_le {s : StartStage} (h : Fails s) : s.rank ≤ 1 := by
  obtain ⟨e, rfl | rfl⟩ := h
  · exact le_rfl
  · exact Nat.zero_le 1

lemma NextStart.rank_lt {s s' : StartStage} (h : l.NextStart s s') : s'.rank < s.rank := by
  cases s with
  | waiting => obtain ⟨rfl, -⟩ | ⟨rfl, -⟩ | ⟨rfl, -⟩ := h <;> simp [StartStage.rank]
  | entered => obtain ⟨-, ⟨root, rfl⟩ | ⟨e, rfl⟩⟩ := h <;> simp [StartStage.rank]
  | spawned | answering | equipped =>
    obtain ⟨root, rfl⟩ | hfails := h
    · simp [StartStage.rank]
    · exact hfails.rank_le.trans_lt (by simp [StartStage.rank])
  | initializing =>
    obtain rfl | hfails := h
    · simp [StartStage.rank]
    · exact hfails.rank_le.trans_lt (by simp [StartStage.rank])
  | discarding | marked => obtain ⟨_, rfl⟩ := h; simp [StartStage.rank]
  | launched | checked => obtain rfl := h; simp [StartStage.rank]
  | done => exact h.elim

lemma NextStop.rank_lt {s s' : StopStage} (h : l.NextStop m n s s') : s'.rank < s.rank := by
  cases s with
  | done => exact h.elim
  | waiting => obtain ⟨-, rfl | rfl⟩ := h <;> simp [StopStage.rank]
  | unwatched => obtain ⟨-, rfl | ⟨id, rfl⟩⟩ := h <;> simp [StopStage.rank]
  | shutDown => obtain ⟨-, ticket, rfl⟩ := h; simp [StopStage.rank]
  | closed | leaving => obtain ⟨-, ⟨-, rfl⟩ | ⟨-, rfl⟩⟩ := h <;> simp [StopStage.rank]
  | called | taken | shuttingDown | flushing | ending => obtain ⟨-, rfl⟩ := h; simp [StopStage.rank]

/-- **A call comes nearer to its end with every move that is its turn.** -/
lemma Next.rank_lt {old new : Call} (h : l.Next m n old new) : new.rank < old.rank := by
  cases old with
  | start s =>
    cases new with
    | start s' => exact NextStart.rank_lt h
    | _ => exact h.elim
  | stop s =>
    cases new with
    | stop s' => exact NextStop.rank_lt h
    | _ => exact h.elim
  | document s =>
    cases new with
    | document s' => exact h
    | _ => exact h.elim

lemma Begins.rank_le {new : Call} (h : Begins new) : new.rank ≤ 10 := by
  cases new with
  | start s => rw [show s = .waiting from h]; simp [Call.rank, StartStage.rank]
  | stop s => rw [show s = .called from h]; simp [Call.rank, StopStage.rank]
  | document s => obtain ⟨r, rfl⟩ := h; simp [Call.rank, DocumentStage.rank]

/-- What a move does to the calls: it is no call's turn, it begins one, or it is the turn of one. -/
inductive Turns (l : Life) (m : Move) (l' : Life) : Prop where
  | aside (hm : m.call? = none) (hcalls : l'.calls = l.calls)
  | begins {new : Call} (hm : m.call? = none) (hcalls : l'.calls = l.calls ++ [new])
      (hnew : Begins new)
  | turn {n : Nat} {old new : Call} (hm : m.call? = some n) (hc : l.calls[n]? = some old)
      (hcalls : l'.calls = l.calls.set n new) (hnext : l.Next m n old new)

lemma call?_of_other (hother : m.isOther = true) : m.call? = none := by
  cases m with
  | receiveBatch | forward | loop | readStderr => rfl
  | _ => exact absurd hother (by simp [Move.isOther])

lemma call?_of_initializer (hm : m.initializer? = some n) : m.call? = some n := by
  cases m with
  | sendInitialize | finishInitialize | expireInitialize => exact hm
  | _ => exact absurd hm (by simp [Move.initializer?])

lemma call?_of_reporter (hm : m.reporter? = some n) : m.call? = some n := by
  cases m with
  | filterDocument | checkRunning | sendDocument => exact hm
  | _ => exact absurd hm (by simp [Move.reporter?])

lemma next_fails {s s' : StartStage} (hs : s.isUnderWay = true) (hfails : Fails s') :
    l.NextStart s s' := by
  cases s with
  | spawned | answering | equipped | initializing => exact .inr hfails
  | _ => exact absurd hs (by simp [StartStage.isUnderWay])

/-- **A move is the turn of one call at most.** -/
theorem turns_of_step (hstep : l.Step m l') : l.Turns m l' := by
  cases hstep with
  | other hother => exact .aside (call?_of_other hother) rfl
  | exit | record | report => exact .aside rfl rfl
  | callStart => exact .begins rfl rfl rfl
  | callStop => exact .begins rfl rfl rfl
  | callDocument r => exact .begins rfl rfl ⟨r, rfl⟩
  | document _ hc hm hless => exact .turn (call?_of_reporter hm) hc rfl hless
  | lockForStart hc _ hphase => exact .turn rfl hc rfl (.inl ⟨rfl, hphase⟩)
  | refuseStarted hc _ hphase => exact .turn rfl hc rfl (.inr (.inl ⟨rfl, hphase⟩))
  | refuseStopped hc _ hphase => exact .turn rfl hc rfl (.inr (.inr ⟨rfl, hphase⟩))
  | refrain hc => exact .turn rfl hc rfl ⟨fun _ => rfl, .inr ⟨_, rfl⟩⟩
  | misplaced _ hc hgo | unlaunched _ hc hgo =>
    exact .turn rfl hc rfl ⟨fun hasked => absurd (hasked.symm.trans hgo) (by simp), .inr ⟨_, rfl⟩⟩
  | launch _ hc hgo =>
    exact .turn rfl hc rfl ⟨fun hasked => absurd (hasked.symm.trans hgo) (by simp), .inl ⟨_, rfl⟩⟩
  | answer hc | installHandlers hc | sendInitialize _ hc => exact .turn rfl hc rfl (.inl ⟨_, rfl⟩)
  | finishInitialize hc => exact .turn rfl hc rfl (.inl rfl)
  | discard e hc hs hm =>
    exact .turn (call?_of_initializer hm) hc rfl (next_fails hs ⟨e, .inl rfl⟩)
  | collapse hc hs hm =>
    exact .turn (call?_of_initializer hm) hc rfl (next_fails hs ⟨_, .inr rfl⟩)
  | abortStart hc hs =>
    rcases hs with hs | ⟨e, rfl⟩
    · exact .turn rfl hc rfl (next_fails hs ⟨_, .inr rfl⟩)
    · exact .turn rfl hc rfl ⟨_, rfl⟩
  | finishDiscard hc | checkAlive hc => exact .turn rfl hc rfl ⟨_, rfl⟩
  | markRunning hc | finishStart hc => exact .turn rfl hc rfl rfl
  | cancelStart hc | stopWatching hc => exact .turn rfl hc rfl ⟨rfl, rfl⟩
  | lockForStop hc => exact .turn rfl hc rfl ⟨rfl, .inl rfl⟩
  | rest hc => exact .turn rfl hc rfl ⟨rfl, .inr rfl⟩
  | sendShutdown hc _ hs => exact .turn rfl hc rfl ⟨rfl, hs⟩
  | finishShutdown hc hm =>
    refine .turn ?_ hc rfl ⟨hm, rfl⟩
    rcases hm with rfl | rfl <;> rfl
  | flush ticket hc => exact .turn rfl hc rfl ⟨rfl, ticket, rfl⟩
  | close hc | awaitExit hc => exact .turn rfl hc rfl ⟨⟨_, rfl⟩, rfl⟩
  | checkProcess hc halive => exact .turn rfl hc rfl ⟨rfl, .inl ⟨halive, rfl⟩⟩
  | leave hc halive => exact .turn rfl hc rfl ⟨rfl, .inr ⟨halive, rfl⟩⟩
  | stopProcess hc halive => exact .turn rfl hc rfl ⟨rfl, .inl ⟨halive, rfl⟩⟩
  | miss hc halive => exact .turn rfl hc rfl ⟨rfl, .inr ⟨halive, rfl⟩⟩

lemma getElem?_begun {calls : List Call} {new call : Call} {k : Nat}
    (hc : (calls ++ [new])[k]? = some call) : calls[k]? = some call ∨ call = new := by
  rcases Nat.lt_or_ge k calls.length with hk | hk
  · exact .inl (by rwa [List.getElem?_append_left hk] at hc)
  · rw [List.getElem?_append_right hk] at hc
    exact .inr (List.mem_singleton.1 (List.mem_of_getElem? hc))

lemma getElem?_turned {calls : List Call} {new call : Call} {k : Nat}
    (hc : (calls.set n new)[k]? = some call) :
    k ≠ n ∧ calls[k]? = some call ∨ k = n ∧ call = new := by
  by_cases hk : k = n
  · subst hk
    rw [List.getElem?_set_self (by simpa using (List.getElem?_eq_some_iff.1 hc).1)] at hc
    exact .inr ⟨rfl, (Option.some.inj hc).symm⟩
  · exact .inl ⟨hk, by rwa [List.getElem?_set_ne (Ne.symm hk)] at hc⟩

/-- What becomes of the call `n`: it stays where it is, it begins, or it comes to what is next. -/
inductive Becomes (l : Life) (m : Move) (l' : Life) (n : Nat) : Prop where
  | stays (hm : m.call? ≠ some n) (hsame : l'.calls[n]? = l.calls[n]?)
  | begins {new : Call} (hm : m.call? = none) (hc : l.calls[n]? = none)
      (hc' : l'.calls[n]? = some new) (hnew : Begins new)
  | turns {old new : Call} (hc : l.calls[n]? = some old) (hc' : l'.calls[n]? = some new)
      (hnext : l.Next m n old new)

/-- **Every call goes its own way**, whatever else happens. -/
theorem becomes_of_step (hstep : l.Step m l') (n : Nat) : l.Becomes m l' n := by
  cases turns_of_step hstep with
  | aside hm hcalls => exact .stays (by simp [hm]) (by rw [hcalls])
  | begins hm hcalls hnew =>
    rcases Nat.lt_trichotomy n l.calls.length with hn | rfl | hn
    · exact .stays (by simp [hm]) (by rw [hcalls, List.getElem?_append_left hn])
    · exact .begins hm (by simp) (by simp [hcalls]) hnew
    · refine .stays (by simp [hm]) ?_
      rw [hcalls, List.getElem?_eq_none (by simpa using hn), List.getElem?_eq_none hn.le]
  | @turn k old new hm hc hcalls hnext =>
    by_cases hk : k = n
    · subst hk
      refine .turns hc ?_ hnext
      rw [hcalls, List.getElem?_set_self (List.getElem?_eq_some_iff.1 hc).1]
    · exact .stays (by simpa [hm] using hk) (by rw [hcalls, List.getElem?_set_ne hk])

end Life

end ServerLink.Connection
