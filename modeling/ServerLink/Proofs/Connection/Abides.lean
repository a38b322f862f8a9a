import Mathlib
import ServerLink.Connection.Move

/-!
# What a connection keeps

A connection is told its configuration when it is made, and the forwarding worker gets what it holds
from the watcher alone.

* `Abides` — the configuration stays, and the worker comes to hold nothing new.
* **`abides_of_move?`**, `abides_receiveBatch` — every move but `receiveBatch` abides, and
  `receiveBatch` gives the worker a batch.
* `config_of_move?` — no move changes the configuration.
-/

namespace ServerLink.Connection

variable {c d e : Connection} {m : Move} {n : Nat}

/-- What a connection was told once and for all stays, and the forwarding worker comes to hold
nothing new. -/
structure Abides (c d : Connection) : Prop where
  config : d.config = c.config
  home : d.home = c.home
  holds : ∀ events, d.forwarder = .holding events → c.forwarder = .holding events

lemma Abides.of_eq (hconfig : d.config = c.config) (hhome : d.home = c.home)
    (hforwarder : d.forwarder = c.forwarder) : c.Abides d :=
  ⟨hconfig, hhome, fun _ h => hforwarder ▸ h⟩

lemma Abides.trans (h : c.Abides d) (h' : d.Abides e) : c.Abides e :=
  ⟨h'.config.trans h.config, h'.home.trans h.home,
    fun events he => h.holds events (h'.holds events he)⟩

lemma Abides.failStart (h : c.Abides d) (n : Nat) (e : ConnectionError) :
    c.Abides (d.failStart n e) := by
  refine h.trans ?_
  cases e <;> exact .of_eq rfl rfl rfl

lemma Abides.discard (h : c.Abides d) (n : Nat) (e : ConnectionError) :
    c.Abides (d.discard n e) := by
  refine h.trans ?_
  rw [Connection.discard]
  split
  · exact .of_eq rfl rfl rfl
  · refine Abides.failStart ?_ n e
    exact .of_eq rfl rfl rfl

lemma Abides.closeHandshake (h : c.Abides d) (n : Nat) (answer : Except RpcError Json)
    (watch : Except WatchError Path) : c.Abides (d.closeHandshake n answer watch) := by
  refine h.trans ?_
  rw [Connection.closeHandshake]
  split
  · refine Abides.discard ?_ n _
    exact .of_eq rfl rfl rfl
  · split
    · refine Abides.discard ?_ n _
      exact .of_eq rfl rfl rfl
    · exact ⟨rfl, rfl, nofun⟩

lemma abides_openHandshake (c : Connection) (n : Nat) (root : Url) :
    c.Abides (c.openHandshake n root) := by
  rw [openHandshake]
  split
  · refine Abides.discard ?_ n _
    exact .of_eq rfl rfl rfl
  · split
    · exact .of_eq rfl rfl rfl
    · refine Abides.discard ?_ n _
      exact .of_eq rfl rfl rfl

lemma Abides.closeFarewell (h : c.Abides d) (n : Nat) (answer : Except RpcError Json) :
    c.Abides (d.closeFarewell n answer) := by
  refine h.trans ?_
  rw [Connection.closeFarewell]
  split <;> exact .of_eq rfl rfl rfl

/-! ## The moves of a call to start -/

lemma abides_lockForStart (h : c.lockForStart n = some d) : c.Abides d := by
  rw [lockForStart] at h
  repeat' split at h
  all_goals cases h
  all_goals exact .of_eq rfl rfl rfl

lemma abides_launch {outcome : Except SystemError Nat} (h : c.launch n outcome = some d) :
    c.Abides d := by
  rw [launch] at h
  split at h
  · split at h
    · cases h
      refine Abides.failStart ?_ n _
      exact .of_eq rfl rfl rfl
    · split at h
      · cases h
        refine Abides.failStart ?_ n _
        exact .of_eq rfl rfl rfl
      · dsimp only at h
        split at h
        · cases h
          refine Abides.failStart ?_ n _
          exact .of_eq rfl rfl rfl
        · cases h
          exact .of_eq rfl rfl rfl
  · cases h

lemma abides_installHandlers (h : c.installHandlers n = some d) : c.Abides d := by
  rw [installHandlers] at h
  repeat' split at h
  all_goals cases h
  all_goals exact .of_eq rfl rfl rfl

lemma abides_sendInitialize (h : c.sendInitialize n = some d) : c.Abides d := by
  rw [sendInitialize] at h
  split at h
  · cases h; exact abides_openHandshake c n _
  · cases h

lemma abides_abortStart (h : c.abortStart n = some d) : c.Abides d := by
  rw [abortStart] at h
  repeat' split at h
  all_goals cases h
  all_goals
    refine Abides.failStart ?_ n _
    exact .of_eq rfl rfl rfl

lemma abides_finishInitialize {watch : Except WatchError Path}
    (h : c.finishInitialize n watch = some d) : c.Abides d := by
  rw [finishInitialize] at h
  split at h
  · split at h
    · cases h
    · obtain ⟨wake, -, rfl⟩ := Option.map_eq_some_iff.1 h
      exact Abides.closeHandshake (.of_eq rfl rfl rfl) n _ watch
  · cases h

lemma abides_expireInitialize (h : c.expireInitialize n = some d) : c.Abides d := by
  rw [expireInitialize] at h
  split at h
  · split at h
    · cases h
    · cases h
      refine Abides.closeHandshake ?_ n _ _
      exact .of_eq rfl rfl rfl
  · cases h

lemma abides_finishDiscard (h : c.finishDiscard n = some d) : c.Abides d := by
  rw [finishDiscard] at h
  split at h
  · split at h
    · cases h
    · cases h
      refine Abides.failStart ?_ n _
      exact .of_eq rfl rfl rfl
  · cases h

lemma abides_markRunning (h : c.markRunning n = some d) : c.Abides d := by
  rw [markRunning] at h
  split at h <;> cases h
  exact .of_eq rfl rfl rfl

lemma abides_checkAlive (h : c.checkAlive n = some d) : c.Abides d := by
  rw [checkAlive] at h
  split at h <;> cases h
  exact .of_eq rfl rfl rfl

lemma abides_finishStart (h : c.finishStart n = some d) : c.Abides d := by
  rw [finishStart] at h
  split at h
  · rename_i alive _
    cases h
    cases alive <;> exact .of_eq rfl rfl rfl
  · cases h

/-! ## The moves of a call to stop -/

lemma abides_cancelStart (h : c.cancelStart n = some d) : c.Abides d := by
  rw [cancelStart] at h
  split at h <;> cases h
  exact .of_eq rfl rfl rfl

lemma abides_lockForStop (h : c.lockForStop n = some d) : c.Abides d := by
  rw [lockForStop] at h
  split at h
  · split at h <;> cases h <;> exact .of_eq rfl rfl rfl
  · cases h

lemma abides_stopWatching (h : c.stopWatching n = some d) : c.Abides d := by
  rw [stopWatching] at h
  split at h <;> cases h
  exact ⟨rfl, rfl, nofun⟩

lemma abides_sendShutdown (h : c.sendShutdown n = some d) : c.Abides d := by
  rw [sendShutdown] at h
  repeat' split at h
  all_goals cases h
  all_goals exact .of_eq rfl rfl rfl

lemma abides_finishShutdown (h : c.finishShutdown n = some d) : c.Abides d := by
  rw [finishShutdown] at h
  split at h
  · obtain ⟨wake, -, rfl⟩ := Option.map_eq_some_iff.1 h
    exact Abides.closeFarewell (.of_eq rfl rfl rfl) n _
  · cases h

lemma abides_expireShutdown (h : c.expireShutdown n = some d) : c.Abides d := by
  rw [expireShutdown] at h
  split at h
  · split at h
    · cases h
    · cases h
      refine Abides.closeFarewell ?_ n _
      exact .of_eq rfl rfl rfl
  · cases h

lemma abides_flush (h : c.flush n = some d) : c.Abides d := by
  rw [flush] at h
  repeat' split at h
  all_goals cases h
  all_goals exact .of_eq rfl rfl rfl

lemma abides_close {late : Bool} (h : c.close n late = some d) : c.Abides d := by
  rw [close] at h
  repeat' split at h
  all_goals cases h
  exact .of_eq rfl rfl rfl

lemma abides_checkProcess (h : c.checkProcess n = some d) : c.Abides d := by
  rw [checkProcess] at h
  split at h
  · cases h
    split <;> exact .of_eq rfl rfl rfl
  · cases h

lemma abides_stopProcess (h : c.stopProcess n = some d) : c.Abides d := by
  rw [stopProcess] at h
  repeat' split at h
  all_goals cases h
  all_goals exact .of_eq rfl rfl rfl

lemma abides_awaitExit {late : Bool} (h : c.awaitExit n late = some d) : c.Abides d := by
  rw [awaitExit] at h
  repeat' split at h
  all_goals cases h
  exact .of_eq rfl rfl rfl

/-! ## The moves of a call about a document -/

lemma abides_filterDocument (h : c.filterDocument n = some d) : c.Abides d := by
  rw [filterDocument] at h
  split at h
  · rename_i r _
    rcases ite_eq_iff.1 h with ⟨-, h⟩ | ⟨-, h⟩ <;> cases h
    · exact .of_eq rfl rfl rfl
    · cases r <;> exact .of_eq rfl rfl rfl
  · cases h

lemma abides_checkRunning (h : c.checkRunning n = some d) : c.Abides d := by
  rw [checkRunning] at h
  split at h <;> cases h
  exact .of_eq rfl rfl rfl

lemma abides_sendDocument (h : c.sendDocument n = some d) : c.Abides d := by
  rw [sendDocument] at h
  split at h
  · rename_i r _ _
    split at h
    · cases h
      exact .of_eq rfl rfl rfl
    · cases h
      cases r <;> try exact .of_eq rfl rfl rfl
      dsimp only
      split <;> exact .of_eq rfl rfl rfl
  · cases h

/-! ## All moves -/

lemma abides_forward (h : c.forward = some d) : c.Abides d := by
  rw [forward] at h
  split at h
  · dsimp only at h
    split at h <;> cases h <;> exact ⟨rfl, rfl, nofun⟩
  · cases h

/-- **Every move but `receiveBatch`** leaves the configuration as it is and gives the worker
nothing. -/
theorem abides_of_move? (hm : c.move? m = some d) (hbatch : ∀ changes, m ≠ .receiveBatch changes) :
    c.Abides d := by
  cases m with
  | callStart | callStop | callDocument r => cases hm; exact .of_eq rfl rfl rfl
  | launch n outcome => exact abides_launch hm
  | receiveBatch changes => exact absurd rfl (hbatch changes)
  | lockForStart n => exact abides_lockForStart hm
  | installHandlers n => exact abides_installHandlers hm
  | sendInitialize n => exact abides_sendInitialize hm
  | abortStart n => exact abides_abortStart hm
  | finishInitialize n watch => exact abides_finishInitialize hm
  | expireInitialize n => exact abides_expireInitialize hm
  | finishDiscard n => exact abides_finishDiscard hm
  | markRunning n => exact abides_markRunning hm
  | checkAlive n => exact abides_checkAlive hm
  | finishStart n => exact abides_finishStart hm
  | cancelStart n => exact abides_cancelStart hm
  | lockForStop n => exact abides_lockForStop hm
  | stopWatching n => exact abides_stopWatching hm
  | sendShutdown n => exact abides_sendShutdown hm
  | finishShutdown n => exact abides_finishShutdown hm
  | expireShutdown n => exact abides_expireShutdown hm
  | flush n => exact abides_flush hm
  | close n late => exact abides_close hm
  | checkProcess n => exact abides_checkProcess hm
  | stopProcess n => exact abides_stopProcess hm
  | awaitExit n late => exact abides_awaitExit hm
  | filterDocument n => exact abides_filterDocument hm
  | checkRunning n => exact abides_checkRunning hm
  | sendDocument n => exact abides_sendDocument hm
  | forward => exact abides_forward hm
  | loop m =>
    rw [move?] at hm
    split at hm
    · obtain ⟨s, -, rfl⟩ := Option.map_eq_some_iff.1 hm
      exact .of_eq rfl rfl rfl
    · cases hm
  | readStderr line =>
    rw [move?] at hm
    split at hm <;> cases hm
    exact .of_eq rfl rfl rfl
  | exit | record =>
    obtain ⟨p, -, rfl⟩ := Option.map_eq_some_iff.1 hm
    exact .of_eq rfl rfl rfl
  | report pid =>
    obtain ⟨p, -, rfl⟩ := Option.map_eq_some_iff.1 hm
    dsimp only
    split <;> exact .of_eq rfl rfl rfl

/-- The worker holds what it held, or the batch that it gathers. -/
lemma abides_receiveBatch {changes : List Watch.Change} (h : c.receiveBatch changes = some d) :
    d.config = c.config ∧ d.home = c.home ∧ ∀ events, d.forwarder = .holding events →
      c.forwarder = .holding events ∨ events = Watch.fileEvents changes := by
  rw [receiveBatch] at h
  split at h
  · dsimp only at h
    split at h <;> cases h
    · exact ⟨rfl, rfl, fun _ => .inl⟩
    · exact ⟨rfl, rfl, fun events hevents => .inr (by cases hevents; rfl)⟩
  · cases h

lemma config_of_move? (hm : c.move? m = some d) : d.config = c.config := by
  by_cases hbatch : ∃ changes, m = .receiveBatch changes
  · obtain ⟨changes, rfl⟩ := hbatch
    exact (abides_receiveBatch hm).1
  · exact (abides_of_move? hm fun changes hc => hbatch ⟨changes, hc⟩).config

end ServerLink.Connection
