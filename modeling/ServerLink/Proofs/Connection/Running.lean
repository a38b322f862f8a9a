import Mathlib
import ServerLink.Proofs.Connection.Farewell

/-!
# Whether the server is running

Two parties write the mark that the server is running: a start at its end, which looks at the
process in between, and the worker that brings the news of the server's end.  Neither waits for the
other.

**`reachable_reflects`**: in whatever order they come, once the start has succeeded and the news has
come through, the mark tells whether the server lives, and callers are answered by it.  A stop that
has had the lock takes the mark back for good.

**The news.**  `Supervisor.Follows s c` says that what a supervisor takes to be running is what it
has heard of its one child; the news goes from awaited to recorded to told, and never back
(`Follows.outside`).

**The mark.**  `StartStage.Sees` says at each stage of a start how the mark and the news fit
together.  The mark may be stale only while the news is recorded and not yet told.
-/

namespace ServerLink.Process.Supervisor

/-- The supervisor has one child, and takes it to be running until its end is recorded. -/
structure Follows (s : Supervisor) (c : Child) : Prop where
  child : s.children = [c]
  awaited : c.news = .awaited → s.isRunning = true
  recorded : c.news ≠ .awaited → s.isRunning = false ∧ c.ending.isSome = true

/-- What a move outside makes of the news of a child's end. -/
inductive Brings : Move → News → News → Prop where
  | exit (pid : Nat) (code : Option Nat) (news : News) : Brings (.exit pid code) news news
  | record (pid : Nat) : Brings (.record pid) .awaited .recorded
  | tell (pid : Nat) : Brings (.tell pid) .recorded .told

variable {s t : Supervisor} {m : Move} {c : Child}

lemma follows_launch (pid : Nat) : ((new.move (.launch pid)).takePipe.1).Follows
    ⟨pid, none, .awaited, true, true⟩ :=
  ⟨rfl, fun _ => rfl, fun h => absurd rfl h⟩

/-- **The news goes one way.** -/
lemma Follows.outside (h : s.Follows c) (hm : m.isOutside = true) (hmove : s.move? m = some t) :
    ∃ d, t.Follows d ∧ Brings m c.news d.news := by
  obtain ⟨hc, hawaited, hrecorded⟩ := h
  cases m with
  | exit pid code =>
    -- an end as such is no news
    rw [move?, Option.ite_none_right_eq_some] at hmove
    cases hmove.2
    refine ⟨_, ⟨change_singleton hc _, ?_, ?_⟩, ?_⟩
    · split
      · exact hawaited
      · exact hawaited
    · split
      · exact fun hnews => ⟨(hrecorded hnews).1, rfl⟩
      · exact hrecorded
    · split
      · exact .exit pid code _
      · exact .exit pid code _
  | record pid =>
    rw [move?] at hmove
    split at hmove
    · rename_i d hd
      obtain ⟨rfl, hpid⟩ := child?_singleton hc hd
      simp only [Option.ite_none_right_eq_some, Bool.and_eq_true, decide_eq_true_eq] at hmove
      obtain ⟨⟨hended, hnews⟩, hmove⟩ := hmove
      cases hmove
      refine ⟨_, ⟨change_singleton hc _, ?_, ?_⟩, ?_⟩
      · rw [if_pos hpid]
        exact fun hnews => absurd hnews (by simp)
      · rw [if_pos hpid]
        exact fun _ => ⟨rfl, hended⟩
      · rw [if_pos hpid, hnews]
        exact .record pid
    · exact absurd hmove (by simp)
  | tell pid =>
    rw [move?] at hmove
    split at hmove
    · rename_i pid' code heard shown hd
      obtain ⟨rfl, hpid⟩ := child?_singleton hc hd
      cases hmove
      refine ⟨_, ⟨change_singleton (s := s) hc _, ?_, ?_⟩, ?_⟩
      · rw [if_pos hpid]
        exact fun hnews => absurd hnews (by simp)
      · rw [if_pos hpid]
        exact fun _ => ⟨(hrecorded (by simp)).1, rfl⟩
      · rw [if_pos hpid]
        exact .tell pid
    · exact absurd hmove (by simp)
  | _ => exact absurd hm (by simp [Move.isOutside])

end ServerLink.Process.Supervisor

namespace ServerLink.Connection

open Process

/-- What comes of the mark with a move outside: the one that tells the end of the server takes it
back. -/
def markAfter (running : Bool) : Supervisor.Move → Bool
  | .tell _ => false
  | _ => running

/-- A stop that has had the lock. -/
def StopStage.hadLock : StopStage → Bool
  | .called | .waiting => false
  | _ => true

/-- The mark tells what the news is; while it is recorded and not told, the mark may be either. -/
def Mirrors (running : Bool) (news : News) : Prop :=
  (news = .awaited → running = true) ∧ (news = .told → running = false)

/-- What a start at its stage knows of the mark, and of the news of the server's end. -/
def StartStage.Sees (running : Bool) (news : News) : StartStage → Prop
  | .marked => news ≠ .told → running = true
  | .checked true => (news ≠ .told → running = true) ∧ (news = .told → running = false)
  | .checked false => news ≠ .awaited
  | _ => True

section News

variable {running : Bool} {o : Supervisor.Move} {news news' : News}

lemma Mirrors.brought (h : Mirrors running news) (hbrings : Supervisor.Brings o news news') :
    Mirrors (markAfter running o) news' := by
  cases hbrings with
  | exit => exact h
  | record => exact ⟨nofun, nofun⟩
  | tell => exact ⟨nofun, fun _ => rfl⟩

lemma StartStage.Sees.brought {s : StartStage} (h : s.Sees running news)
    (hbrings : Supervisor.Brings o news news') : s.Sees (markAfter running o) news' := by
  cases hbrings with
  | exit => exact h
  | record =>
    cases s with
    | marked => exact fun _ => h (by simp)
    | checked alive =>
      cases alive with
      | true => exact ⟨fun _ => h.1 (by simp), nofun⟩
      | false => exact absurd rfl h
    | _ => trivial
  | tell =>
    cases s with
    | marked => exact fun hnot => absurd rfl hnot
    | checked alive =>
      cases alive with
      | true => exact ⟨fun hnot => absurd rfl hnot, fun _ => rfl⟩
      | false => exact nofun
    | _ => trivial

end News

/-- A start at this stage has launched the server and has not failed. -/
def StartStage.isFollowing : StartStage → Bool
  | .launched | .marked | .checked _ => true
  | s => s.isUnderWay

/-- The mark of a connection and what its supervisor has heard of its server. -/
structure Reflects (c : Connection) : Prop where
  /-- Once a start has succeeded, no stop has had the lock and an end of the server was told, the
  mark tells whether the server lives, and every call about a document is answered by it. -/
  mirrors : ∀ n : Nat, c.calls[n]? = some (.start (.done (.ok ()))) →
    (∀ (k : Nat) s, c.calls[k]? = some (.stop s) → s.hadLock = false) →
    (∀ child ∈ c.process.children, child.ending.isSome = true → child.news = .told) →
    ∃ child, c.process.children = [child] ∧ (c.running = true ↔ child.ending = none)
      ∧ ∀ (k : Nat) r, c.calls[k]? = some (.document (.known r)) →
        ∃ d, c.move? (.checkRunning k) = some d
        ∧ (child.ending = none → d.calls[k]? = some (.document (.passed r)))
        ∧ (child.ending ≠ none → d.calls[k]? = some (.document (.done (.error .serverExited))))
  /-- Once a stop has had the lock the mark is taken back for good. -/
  stopped : ∀ (k : Nat) s, c.calls[k]? = some (.stop s) → s.hadLock = true →
    ∀ d, Reachable c d → d.running = false

namespace Life

variable {l l' : Life} {m : Move} {n : Nat}

/-- The mark is right wherever a start has come so far, and while the connection runs. -/
structure Minds (l : Life) : Prop where
  start : ∀ (n : Nat) s, l.calls[n]? = some (.start s) → s.isFollowing = true →
    ∃ c, l.process.Follows c ∧ s.Sees l.running c.news
  running : l.phase = .running → ∃ c, l.process.Follows c ∧ Mirrors l.running c.news

lemma isInside_of_isFollowing {s : StartStage} (hs : s.isFollowing = true) : s.isInside = true := by
  cases s with
  | waiting | done | entered | discarding =>
    exact absurd hs (by simp [StartStage.isFollowing, StartStage.isUnderWay])
  | _ => rfl

/-- **A turn of a call** keeps the mark right, if it is right for the call's next stage and no other
call that has the lock could see anything of it. -/
lemma Minds.turn {old new : Call} (h : l.Minds) (hsound : l.Sound)
    (hcalls : l'.calls = l.calls.set n new) (hold : l.calls[n]? = some old)
    (hothers : old.holds = true ∨ l.holder = none
      ∨ l'.process = l.process ∧ l'.running = l.running)
    (hnew : ∀ s, new = .start s → s.isFollowing = true →
      ∃ c, l'.process.Follows c ∧ s.Sees l'.running c.news)
    (hrunning : l'.phase = .running → ∃ c, l'.process.Follows c ∧ Mirrors l'.running c.news) :
    l'.Minds := by
  refine ⟨fun k s hc hs => ?_, hrunning⟩
  rw [hcalls] at hc
  rcases getElem?_turned hc with ⟨hk, hc⟩ | ⟨rfl, hsame⟩
  · have hholder := (hsound.start hc (isInside_of_isFollowing hs)).2.2
    rcases hothers with hholds | hfree | ⟨hprocess, hmark⟩
    · exact absurd (Option.some.inj (hholder.symm.trans (hsound.alone hold hholds))) hk
    · exact absurd (hholder.symm.trans hfree) (by simp)
    · rw [hprocess, hmark]
      exact h.start k s hc hs
  · exact hnew s hsame.symm hs

/-- A call that begins sees nothing of the mark. -/
lemma Minds.begin {new : Call} (h : l.Minds) (hnew : Begins new) :
    Minds { l with calls := l.calls ++ [new] } := by
  refine ⟨fun k s hc hs => ?_, h.running⟩
  rcases getElem?_begun hc with hc | rfl
  · exact h.start k s hc hs
  · cases hnew
    exact absurd hs (by simp [StartStage.isFollowing, StartStage.isUnderWay])

/-- **The news of the server's end** keeps the mark right at whatever stage the start is. -/
lemma Minds.outside {o : Supervisor.Move} {p : Supervisor} (h : l.Minds) (ho : o.isOutside = true)
    (hp : l.process.move? o = some p) :
    Minds { l with process := p, running := markAfter l.running o } := by
  constructor
  case start =>
    intro k s hc hs
    obtain ⟨c, hfollows, hsees⟩ := h.start k s hc hs
    obtain ⟨d, hd, hbrings⟩ := hfollows.outside ho hp
    exact ⟨d, hd, hsees.brought hbrings⟩
  case running =>
    intro hphase
    obtain ⟨c, hfollows, hmirrors⟩ := h.running hphase
    obtain ⟨d, hd, hbrings⟩ := hfollows.outside ho hp
    exact ⟨d, hd, hmirrors.brought hbrings⟩

/-- A start that goes on sees what it saw, where nothing of it has changed. -/
lemma Minds.goesOn {s s' : StartStage} (h : l.Minds) (hsound : l.Sound)
    (hc : l.calls[n]? = some (.start s)) (hs : s.isFollowing = true)
    (hsees : ∀ c, l.process.Follows c → s.Sees l.running c.news → s'.Sees l.running c.news) :
    Minds (l.put n (.start s')) := by
  obtain ⟨c, hfollows, hsaw⟩ := h.start n s hc hs
  have hphase := (hsound.start hc (isInside_of_isFollowing hs)).2.1
  refine h.turn hsound rfl hc (.inl (isInside_of_isFollowing hs))
    (fun s hnew _ => ?_) fun hrun => ?_
  · cases hnew
    exact ⟨c, hfollows, hsees c hfollows hsaw⟩
  · exact absurd (hphase.symm.trans hrun) (by simp)

/-- **Every move keeps the mark right.** -/
theorem Minds.step (h : l.Minds) (hsound : l.Sound) (hstep : l.Step m l') : l'.Minds := by
  -- what becomes of a start that failed, or of a stop that goes on, sees nothing of the mark
  have fails : ∀ {n : Nat} {s : StartStage} {e : ConnectionError} {p : Supervisor} {launches : Nat},
      l.calls[n]? = some (.start s) → s.isInside = true →
      Minds { l.failed n e with process := p, launches } := by
    intro n s e p launches hc hs
    refine h.turn hsound rfl hc (.inl hs) (fun s hnew hs => ?_) (by simp [failed])
    cases hnew
    exact absurd hs (by simp [StartStage.isFollowing, StartStage.isUnderWay])
  have stops : ∀ {n : Nat} {s s' : StopStage} {l' : Life}, l.calls[n]? = some (.stop s) →
      s.isInside = true → l'.calls = l.calls.set n (.stop s') → l'.phase = l.phase → l'.Minds := by
    intro n s s' l' hc hs hcalls hphase
    refine h.turn hsound hcalls hc (.inl hs) (by simp) fun hrun => ?_
    exact absurd ((hsound.stop hc hs).2.1.symm.trans (hphase.symm.trans hrun)) (by simp)
  have aside : ∀ {n : Nat} {old new : Call} {asked : Bool} {urls : List Url},
      l.calls[n]? = some old → (∀ s, new = .start s → s.isFollowing = false) →
      Minds { l with calls := l.calls.set n new, cancelled := asked, documents := urls } := by
    intro n old new asked urls hc hnew
    refine h.turn hsound rfl hc (.inr (.inr ⟨rfl, rfl⟩)) (fun s hs hfollowing => ?_) h.running
    exact absurd ((hnew s hs).symm.trans hfollowing) (by simp)
  cases hstep with
  | other => exact h
  | callStart => exact h.begin rfl
  | callStop => exact h.begin rfl
  | callDocument r => exact h.begin ⟨r, rfl⟩
  | document urls hc => exact aside hc (by simp)
  | cancelStart hc => exact aside hc (by simp)
  | refuseStarted hc | refuseStopped hc => exact aside hc fun s hs => by cases hs; rfl
  | lockForStart hc =>
    refine h.turn hsound rfl hc (.inr (.inr ⟨rfl, rfl⟩)) (fun s hs hfollowing => ?_) h.running
    cases hs
    exact absurd hfollowing (by simp [StartStage.isFollowing, StartStage.isUnderWay])
  | refrain hc | misplaced _ hc | unlaunched _ hc | finishDiscard hc => exact fails hc rfl
  | collapse hc hs => exact fails hc (isInside_of_isUnderWay hs)
  | abortStart hc hs =>
    rcases hs with hs | ⟨e, rfl⟩
    · exact fails hc (isInside_of_isUnderWay hs)
    · exact fails hc rfl
  | @launch n pid root hc hasked hidle =>
    obtain ⟨⟨-, hnew, -⟩, hphase, -⟩ := hsound.start hc rfl
    refine h.turn hsound rfl hc (.inl rfl) (fun s hs _ => ?_) fun hrun => ?_
    · cases hs
      exact ⟨_, hnew ▸ Supervisor.follows_launch pid, trivial⟩
    · exact absurd (hphase.symm.trans hrun) (by simp)
  | answer hc | installHandlers hc | sendInitialize _ hc | finishInitialize hc =>
    exact h.goesOn hsound hc rfl fun _ _ _ => trivial
  | discard e hc hs _ hpid =>
    have hinside := isInside_of_isUnderWay hs
    refine h.turn hsound rfl hc (.inl hinside) (fun s hs hfollowing => ?_) fun hrun => ?_
    · cases hs
      exact absurd hfollowing (by simp [StartStage.isFollowing, StartStage.isUnderWay])
    · exact absurd ((hsound.start hc hinside).2.1.symm.trans hrun) (by simp)
  | markRunning hc =>
    obtain ⟨c, hfollows, -⟩ := h.start _ _ hc rfl
    refine h.turn hsound rfl hc (.inl rfl) (fun s hs _ => ?_) fun hrun => ?_
    · cases hs
      exact ⟨c, hfollows, fun _ => rfl⟩
    · exact absurd ((hsound.start hc rfl).2.1.symm.trans hrun) (by simp)
  | checkAlive hc =>
    refine h.goesOn hsound hc rfl fun c hfollows hsees => ?_
    cases halive : l.process.isRunning with
    | true =>
      have hawaited : c.news = .awaited := by
        by_contra hnot
        exact absurd (halive.symm.trans (hfollows.recorded hnot).1) (by simp)
      exact ⟨hsees, fun htold => absurd (hawaited.symm.trans htold) (by simp)⟩
    | false =>
      exact fun hawaited => absurd (halive.symm.trans (hfollows.awaited hawaited)) (by simp)
  | @finishStart n alive hc =>
    obtain ⟨c, hfollows, hsees⟩ := h.start _ _ hc rfl
    refine h.turn hsound rfl hc (.inl rfl) (fun s hs hfollowing => ?_) fun _ => ⟨c, hfollows, ?_⟩
    · cases hs
      exact absurd hfollowing (by simp [StartStage.isFollowing, StartStage.isUnderWay])
    · cases alive with
      | true => exact ⟨fun hawaited => hsees.1 (by simp [hawaited]), hsees.2⟩
      | false => exact ⟨fun hawaited => absurd hawaited hsees, fun _ => rfl⟩
  | lockForStop hc hfree | rest hc hfree =>
    exact h.turn hsound rfl hc (.inr (.inl hfree)) (by simp) (by simp)
  | stopWatching hc | sendShutdown hc | finishShutdown hc | flush _ hc | close hc | checkProcess hc
  | leave hc | stopProcess hc | miss hc | awaitExit hc => exact stops hc rfl rfl rfl
  | exit hp | record hp | report hp => exact h.outside rfl hp

/-! ## Until a stop has the lock -/

/-- No stop has had the lock. -/
def Unstopped (l : Life) : Prop := ∀ (k : Nat) s, l.calls[k]? = some (.stop s) → s.hadLock = false

/-- A connection that was started runs until a stop has the lock. -/
def Lasts (l : Life) : Prop := ∀ n : Nat, l.calls[n]? = some Call.succeeded → l.Unstopped →
  l.phase = .running

/-- A stop that has had the lock has had it for good. -/
lemma hadLock_step {k : Nat} (hstep : l.Step m l')
    (h : ∃ s, l.calls[k]? = some (.stop s) ∧ s.hadLock = true) :
    ∃ s, l'.calls[k]? = some (.stop s) ∧ s.hadLock = true := by
  obtain ⟨s, hc, hs⟩ := h
  rcases becomes_of_step hstep k with ⟨-, hsame⟩ | ⟨-, hnone, -⟩ | ⟨hold, hnew, hnext⟩
  · exact ⟨s, hsame.trans hc, hs⟩
  · exact absurd (hnone.symm.trans hc) (by simp)
  · cases hold.symm.trans hc
    rename_i new
    cases new with
    | stop s' =>
      refine ⟨s', hnew, ?_⟩
      cases s with
      | called | waiting => exact absurd hs (by simp [StopStage.hadLock])
      | done => exact hnext.elim
      | unwatched => obtain ⟨-, rfl | ⟨id, rfl⟩⟩ := hnext <;> rfl
      | shutDown => obtain ⟨-, ticket, rfl⟩ := hnext; rfl
      | closed | leaving => obtain ⟨-, ⟨-, rfl⟩ | ⟨-, rfl⟩⟩ := hnext <;> rfl
      | taken | shuttingDown | flushing | ending => obtain ⟨-, rfl⟩ := hnext; rfl
    | _ => exact hnext.elim

lemma unstopped_of_step (hstep : l.Step m l') (h : l'.Unstopped) : l.Unstopped := by
  intro k s hc
  by_contra hs
  obtain ⟨s', hc', hs'⟩ := hadLock_step hstep ⟨s, hc, by simpa using hs⟩
  exact absurd ((h k s' hc').symm.trans hs') (by simp)

/-- A start that succeeds holds the lock of a connection that is idle. -/
lemma Sound.succeeded_step (h : l.Sound) (hstep : l.Step m l')
    (hc' : l'.calls[n]? = some Call.succeeded) :
    l.calls[n]? = some Call.succeeded ∨ l.phase = .idle ∧ l.holder = some n := by
  rcases becomes_of_step hstep n with ⟨-, hsame⟩ | ⟨-, -, hnew, hbegins⟩ | ⟨hc, hnew, hnext⟩
  · exact .inl (hsame ▸ hc')
  · cases hnew.symm.trans hc'
    exact absurd (show StartStage.done _ = .waiting from hbegins) (by simp)
  · cases hnew.symm.trans hc'
    rename_i old
    cases old with
    | start s =>
      cases hinside : s.isInside with
      | true => exact .inr (h.start hc hinside).2
      | false =>
        cases s with
        | waiting => rcases hnext with ⟨hs, -⟩ | ⟨hs, -⟩ | ⟨hs, -⟩ <;> exact absurd hs (by simp)
        | done => exact hnext.elim
        | _ => exact absurd hinside (by simp [StartStage.isInside])
    | _ => exact hnext.elim

/-- A connection is stopped by a stop that has the lock, or by the start that held it and failed. -/
lemma Sound.stopped_step (h : l.Sound) (hstep : l.Step m l') (hwas : l.phase ≠ .stopped)
    (hnow : l'.phase = .stopped) :
    (∃ (k : Nat) (s : StopStage), l'.calls[k]? = some (.stop s) ∧ s.hadLock = true) ∨
      ∃ (k : Nat) (e : ConnectionError), l.phase = .idle ∧ l.holder = some k
        ∧ l'.calls[k]? = some (.start (.done (.error e))) := by
  have hset : ∀ {n : Nat} {old new : Call}, l.calls[n]? = some old →
      (l.calls.set n new)[n]? = some new :=
    fun hc => List.getElem?_set_self (List.getElem?_eq_some_iff.1 hc).1
  cases hstep with
  | refrain hc | misplaced _ hc | unlaunched _ hc | finishDiscard hc =>
    exact .inr ⟨_, _, (h.start hc rfl).2.1, (h.start hc rfl).2.2, hset hc⟩
  | collapse hc hs =>
    have hstands := (h.start hc (isInside_of_isUnderWay hs)).2
    exact .inr ⟨_, _, hstands.1, hstands.2, hset hc⟩
  | @abortStart n s hc hs =>
    have hinside : s.isInside = true := by
      rcases hs with hs | ⟨e, rfl⟩
      · exact isInside_of_isUnderWay hs
      · rfl
    exact .inr ⟨_, _, (h.start hc hinside).2.1, (h.start hc hinside).2.2, hset hc⟩
  | lockForStop hc | rest hc => exact .inl ⟨_, _, hset hc, rfl⟩
  | finishStart => exact absurd hnow (by simp)
  | _ => exact absurd hnow hwas

lemma Lasts.step (h : l.Lasts) (hsound : l.Sound) (hstep : l.Step m l') : l'.Lasts := by
  intro n hc hunstopped
  cases hnow : l'.phase with
  | idle => exact absurd hnow ((hsound.step hstep).fits n _ hc).1
  | running => rfl
  | stopped =>
    by_cases hwas : l.phase = .stopped
    · rcases hsound.succeeded_step hstep hc with hsucceeded | ⟨hidle, -⟩
      · have hran := h n hsucceeded (unstopped_of_step hstep hunstopped)
        exact absurd (hwas.symm.trans hran) (by simp)
      · exact absurd (hwas.symm.trans hidle) (by simp)
    · rcases hsound.stopped_step hstep hwas hnow with ⟨k, s, hk, hs⟩ | ⟨k, e, hidle, hholder, hk⟩
      · exact absurd ((hunstopped k s hk).symm.trans hs) (by simp)
      · rcases hsound.succeeded_step hstep hc with hsucceeded | ⟨-, hn⟩
        · exact absurd hidle (hsound.fits n _ hsucceeded).1
        · cases hholder.symm.trans hn
          exact absurd (hk.symm.trans hc) (by simp [Call.succeeded])

/-- Nobody holds the lock of a connection that runs. -/
lemma Sound.free_of_running (h : l.Sound) (hphase : l.phase = .running) : l.holder = none := by
  cases hholder : l.holder with
  | none => rfl
  | some k =>
    obtain ⟨call, hc, hholds⟩ := h.held k hholder
    cases call with
    | start s => exact absurd (hphase.symm.trans (h.start hc hholds).2.1) (by simp)
    | stop s => exact absurd (hphase.symm.trans (h.stop hc hholds).2.1) (by simp)
    | document => exact absurd hholds (by simp [Call.holds])

lemma Sound.unmarked (h : l.Sound) {k : Nat} {s : StopStage} (hc : l.calls[k]? = some (.stop s))
    (hs : s.hadLock = true) : l.running = false := by
  have hfits := (h.fits k _ hc).1
  cases s with
  | called | waiting => exact absurd hs (by simp [StopStage.hadLock])
  | done => exact hfits.2.2.2.2.1
  | _ => exact hfits.2.2

end Life

variable {c : Connection}

/-- While the connection runs, a call about a document that it follows is answered by the mark. -/
lemma checkRunning_running {k : Nat} {r : Report} (hk : c.calls[k]? = some (.document (.known r)))
    (hphase : c.phase = .running) (hfree : c.holder = none) :
    c.move? (.checkRunning k) = some (c.put k (.document
      (if c.running then .passed r else .done (.error .serverExited)))) := by
  rw [move?, checkRunning, hk, hfree, hphase]
  cases c.running <;> rfl

/-- **The mark tells whether the server lives**, and a stop takes it back for good. -/
theorem reachable_reflects {config : Config} {home : Path} {processId : Nat}
    (h : Reachable (new config home processId) c) : Reflects c := by
  have hsound := h.sound
  have hstands : c.life.Minds ∧ c.life.Lasts :=
    h.stays (P := fun l => l.Minds ∧ l.Lasts) (sound_new config home processId)
      (fun hsound hl hstep => ⟨hl.1.step hsound hstep, hl.2.step hsound hstep⟩)
      ⟨⟨nofun, nofun⟩, nofun⟩
  constructor
  case mirrors =>
    intro n hc hunstopped htold
    have hphase : c.phase = .running := hstands.2 n hc hunstopped
    obtain ⟨child, hfollows, hmirrors⟩ := hstands.1.running hphase
    -- between the end of the server and its news the mark is stale, and nothing is said of it
    have hended : child.ending ≠ none → child.news = .told := fun hended =>
      htold child (hfollows.child ▸ List.mem_singleton.2 rfl) (Option.isSome_iff_ne_none.2 hended)
    have hawaited : child.ending = none → child.news = .awaited := by
      intro halive
      by_contra hnot
      exact absurd (hfollows.recorded hnot).2 (by simp [halive])
    refine ⟨child, hfollows.child, ⟨fun hrunning => ?_, fun halive => hmirrors.1 (hawaited halive)⟩,
      fun k r hk => ⟨_, checkRunning_running hk hphase (hsound.free_of_running hphase), ?_, ?_⟩⟩
    · by_contra hnot
      exact absurd (hrunning.symm.trans (hmirrors.2 (hended hnot))) (by simp)
    · intro halive
      have hrunning : c.running = true := hmirrors.1 (hawaited halive)
      simp [put, hrunning, (List.getElem?_eq_some_iff.1 hk).1]
    · intro hnot
      have hrunning : c.running = false := hmirrors.2 (hended hnot)
      simp [put, hrunning, (List.getElem?_eq_some_iff.1 hk).1]
  case stopped =>
    intro k s hc hs d hd
    obtain ⟨hsound', s', hc', hs'⟩ := hd.stays
      (P := fun l => l.Sound ∧ ∃ s, l.calls[k]? = some (.stop s) ∧ s.hadLock = true) hsound
      (fun hsound hl hstep => ⟨hsound.step hstep, Life.hadLock_step hstep hl.2⟩)
      ⟨hsound, s, hc, hs⟩
    exact hsound'.unmarked hc' hs'

/-! ## A server that ends before it is marked as running -/

/-- A document of the workspace. -/
def sheet : Url := ⟨"file".toList, some [], "/w/sheet.toml".toList, none, none⟩

/-- The server ends once it has answered, and its end is told before the start sets the mark.  A
document is opened then. -/
def collapsing : List Move :=
  [.loop .dispatch, .finishInitialize 0 (.ok ⟨Utf8.ofString "/w"⟩), .exit 7 (some 1), .record 7,
    .report 7, .markRunning 0, .checkAlive 0, .finishStart 0,
    .callDocument (.opened sheet "toml" 1 ""), .filterDocument 1]

def collapsed : Connection := (answered.moves? collapsing).getD workshop

set_option maxRecDepth 4000 in
lemma moves_collapsing : answered.moves? collapsing = some collapsed := rfl

lemma reachable_collapsed : Reachable workshop collapsed := by
  have hrun : workshop.moves?
      (opening ++ .loop (.absorb (Frame.ofMessage consent)) :: collapsing) = some collapsed := by
    rw [moves?_append, moves_opening, Option.bind_some, moves?, absorb_consent, Option.bind_some,
      moves_collapsing]
  exact Reachable.refl.moves? hrun

set_option maxRecDepth 4000 in
lemma calls_collapsed : collapsed.calls = [.start (.done (.ok ())),
    .document (.known (.opened sheet "toml" 1 ""))] := rfl

set_option maxRecDepth 4000 in
lemma children_collapsed :
    collapsed.process.children = [⟨7, some (some 1), .told, true, true⟩] := rfl

/-- The start succeeded, the mark was set last, and yet it tells that the server is gone. -/
theorem reflects_collapsed : Reachable workshop collapsed
    ∧ collapsed.calls[0]? = some (.start (.done (.ok ()))) ∧ collapsed.running = false
    ∧ (∃ d, collapsed.move? (.checkRunning 1) = some d
      ∧ d.calls[1]? = some (.document (.done (.error .serverExited)))) ∧ Reflects collapsed := by
  have hreflects : Reflects collapsed := reachable_reflects reachable_collapsed
  have hstart : collapsed.calls[0]? = some (.start (.done (.ok ()))) := by rw [calls_collapsed]; rfl
  have hunstopped : ∀ (k : Nat) s, collapsed.calls[k]? = some (.stop s) → s.hadLock = false := by
    intro k s hk
    rw [calls_collapsed] at hk
    exact absurd (List.mem_of_getElem? hk) (by simp)
  have htold : ∀ child ∈ collapsed.process.children, child.ending.isSome = true →
      child.news = .told := by
    intro child hchild _
    rw [children_collapsed, List.mem_singleton] at hchild
    rw [hchild]
  obtain ⟨child, hchild, hmark, hanswers⟩ := hreflects.mirrors 0 hstart hunstopped htold
  rw [children_collapsed, List.cons.injEq] at hchild
  obtain ⟨rfl, -⟩ := hchild
  obtain ⟨d, hchecked, -, hexited⟩ := hanswers 1 _ (by rw [calls_collapsed]; rfl)
  refine ⟨reachable_collapsed, hstart, ?_, ⟨d, hchecked, hexited (by simp)⟩, hreflects⟩
  rw [Bool.eq_false_iff]
  exact fun hrunning => absurd (hmark.1 hrunning) (by simp)

end ServerLink.Connection
