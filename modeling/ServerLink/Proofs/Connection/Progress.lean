import Mathlib
import ServerLink.Proofs.Connection.Sound

/-!
# Calls come to their end

Calls wait for each other's locks, for the worker that forwards watched files, for the server and
for time to pass.  None of this can last: what the program does by itself comes to an end
(`countP_isOwn_le`), and it does not end as long as a stop has something to do (`stop_moves`).

**Work.**  `work` adds up the moves that the calls can still make.  A call may hand the worker a
batch to forward, so each of its moves counts twice, and the batch that the worker holds counts
once.  Only calls that begin and batches that arrive add to it (`work_step`), and so the program
left to itself comes to rest (`exists_quiet`).

**No deadlock.**  The lock of the client is held by the one stop that says farewell (`Life.Spoken`),
and whoever holds the lock of the phase can go on once a stop has asked for the end
(`holder_moves`).
-/

namespace ServerLink.Connection

open Process

/-- A move that the program makes by itself, the passing of time included. -/
def Move.isOwn : Move → Bool
  | .forward => true
  | m => m.call?.isSome

/-- A batch of changes arrives. -/
def Move.isBatch : Move → Bool
  | .receiveBatch _ => true
  | _ => false

/-- Whether the worker holds a batch that it has not forwarded. -/
def holdsBatch (c : Connection) : Bool :=
  match c.forwarder with
  | .holding _ => true
  | _ => false

/-- What the program can still do by itself. -/
def work (c : Connection) : Nat := 2 * (c.calls.map Call.rank).sum + c.holdsBatch.toNat

variable {c d : Connection} {m : Move} {n : Nat}

/-! ## Work -/

lemma isOwn_of_call (h : m.call? = some n) : m.isOwn = true := by
  cases m with
  | forward => rfl
  | _ => exact Option.isSome_iff_exists.2 ⟨n, h⟩

/-- What happens outside leaves the worker where it is, unless it is a batch that arrives. -/
lemma forwarder_kept (hown : m.isOwn = false) (hbatch : m.isBatch = false)
    (h : c.move? m = some d) : d.forwarder = c.forwarder := by
  cases m with
  | callStart | callStop | callDocument => cases h; rfl
  | receiveBatch => exact absurd hbatch (by simp [Move.isBatch])
  | loop m =>
    simp only [move?] at h
    split at h
    · obtain ⟨s, -, rfl⟩ := Option.map_eq_some_iff.1 h
      rfl
    · exact absurd h (by simp)
  | readStderr line =>
    simp only [move?] at h
    split at h
    · exact absurd h (by simp)
    · cases h
      rfl
  | exit | record =>
    obtain ⟨p, -, rfl⟩ := Option.map_eq_some_iff.1 h
    rfl
  | report pid =>
    rw [move?, reportEnd] at h
    obtain ⟨p, -, rfl⟩ := Option.map_eq_some_iff.1 h
    dsimp only
    split <;> rfl
  | _ => exact absurd hown (by simp [Move.isOwn, Move.call?])

lemma forward_batch (h : c.forward = some d) : c.holdsBatch = true ∧ d.holdsBatch = false := by
  simp only [forward] at h
  split at h
  · rename_i events hevents _
    refine ⟨by rw [holdsBatch, hevents], ?_⟩
    split at h <;> cases h <;> rfl
  · exact absurd h (by simp)

/-- Only the worker and the changes of files touch the batch, where no call has its turn. -/
lemma batch_step (hm : m.call? = none) (h : c.move? m = some d) :
    m.isOwn.toNat + d.holdsBatch.toNat ≤ c.holdsBatch.toNat + m.isBatch.toNat := by
  cases hbatch : m.isBatch with
  | true =>
    have hown : m.isOwn = false := by
      cases m with
      | receiveBatch => rfl
      | _ => exact absurd hbatch (by simp [Move.isBatch])
    have hle := Bool.toNat_le d.holdsBatch
    simp only [hown, Bool.toNat_false, Bool.toNat_true]
    omega
  | false =>
    cases hown : m.isOwn with
    | true =>
      cases m with
      | forward =>
        obtain ⟨hheld, hgone⟩ := forward_batch h
        simp [hheld, hgone]
      | _ => exact absurd (hown.symm.trans (congrArg Option.isSome hm)) (by simp)
    | false =>
      rw [holdsBatch, holdsBatch, forwarder_kept hown hbatch h]
      simp

lemma sum_set {calls : List Call} {old new : Call} (h : calls[n]? = some old) :
    ((calls.set n new).map Call.rank).sum + old.rank = (calls.map Call.rank).sum + new.rank := by
  induction calls generalizing n with
  | nil => exact absurd h (by simp)
  | cons call rest ih =>
    cases n with
    | zero =>
      cases h
      simp only [List.set_cons_zero, List.map_cons, List.sum_cons]
      omega
    | succ n =>
      have hrest := ih (n := n) h
      simp only [List.set_cons_succ, List.map_cons, List.sum_cons]
      omega

/-- **What the program does by itself lowers the work.**  A call that begins adds to it, and so does
a batch that arrives. -/
lemma work_step (h : c.move? m = some d) :
    m.isOwn.toNat + d.work + 20 * c.calls.length
      ≤ c.work + 20 * d.calls.length + m.isBatch.toNat := by
  rw [work, work]
  cases Life.turns_of_step (step_of_move? h) with
  | aside hm hcalls =>
    have hbatch := batch_step hm h
    rw [show d.calls = c.calls from hcalls]
    omega
  | begins hm hcalls hnew =>
    have hbatch := batch_step hm h
    have hrank := hnew.rank_le
    rw [show d.calls = c.calls ++ [_] from hcalls]
    simp only [List.map_append, List.map_cons, List.map_nil, List.sum_append, List.sum_cons,
      List.sum_nil, List.length_append, List.length_cons, List.length_nil]
    omega
  | @turn n old new hm hc hcalls hnext =>
    have hlower := hnext.rank_lt
    have hsum : ((c.calls.set n new).map Call.rank).sum + old.rank
        = (c.calls.map Call.rank).sum + new.rank := sum_set hc
    -- the call is two nearer to its end, and may have handed a batch to the worker
    have hbatch := Bool.toNat_le d.holdsBatch
    have hown := isOwn_of_call hm
    rw [show d.calls = c.calls.set n new from hcalls, List.length_set, hown, Bool.toNat_true]
    omega

/-- **What the program does by itself comes to an end**: each call makes a bounded number of moves,
and each batch is forwarded once. -/
theorem countP_isOwn_le {moves : List Move} (h : c.moves? moves = some d) :
    moves.countP Move.isOwn + d.work + 20 * c.calls.length
      ≤ c.work + 20 * d.calls.length + moves.countP Move.isBatch := by
  induction moves generalizing c with
  | nil =>
    cases h
    simp
  | cons m rest ih =>
    obtain ⟨e, hm, hrest⟩ := Option.bind_eq_some_iff.1 h
    have hfirst := work_step hm
    have hthen := ih hrest
    rw [List.countP_cons, List.countP_cons]
    cases hown : m.isOwn <;> cases hbatch : m.isBatch <;> simp [hown, hbatch] at hfirst ⊢ <;> omega

/-- The program has nothing to do by itself. -/
def Quiet (c : Connection) : Prop := ∀ m : Move, m.isOwn = true → c.move? m = none

lemma length_calls_step (hown : m.isOwn = true) (h : c.move? m = some d) :
    d.calls.length = c.calls.length := by
  cases Life.turns_of_step (step_of_move? h) with
  | aside _ hcalls => rw [show d.calls = c.calls from hcalls]
  | turn _ _ hcalls => rw [show d.calls = c.calls.set _ _ from hcalls, List.length_set]
  | begins hm =>
    cases m with
    | forward => exact congrArg (fun l : Life => l.calls.length) (life_of_other rfl h)
    | _ => exact absurd (hown.symm.trans (congrArg Option.isSome hm)) (by simp)

lemma isBatch_of_own (hown : m.isOwn = true) : m.isBatch = false := by
  cases m with
  | receiveBatch => exact absurd hown (by simp [Move.isOwn, Move.call?])
  | _ => rfl

/-- Left to itself the program comes to rest. -/
lemma exists_quiet (c : Connection) : ∃ rest d, (∀ m ∈ rest, m.isOwn = true)
    ∧ c.moves? rest = some d ∧ d.Quiet := by
  induction hwork : c.work using Nat.strong_induction_on generalizing c with
  | _ work ih =>
    by_cases hquiet : c.Quiet
    · exact ⟨[], c, by simp, rfl, hquiet⟩
    · simp only [Quiet, not_forall] at hquiet
      obtain ⟨m, hown, hmove⟩ := hquiet
      obtain ⟨e, he⟩ := Option.ne_none_iff_exists'.1 hmove
      have hless : e.work < work := by
        have hstep := work_step he
        rw [hown, isBatch_of_own hown, length_calls_step hown he, Bool.toNat_true,
          Bool.toNat_false] at hstep
        omega
      obtain ⟨rest, d, hrest, hd, hrests⟩ := ih e.work hless e rfl
      refine ⟨m :: rest, d, ?_, Option.bind_eq_some_iff.2 ⟨e, he, hd⟩, hrests⟩
      exact List.forall_mem_cons.2 ⟨hown, hrest⟩

/-! ## No deadlock -/

/-- The stop says farewell. -/
def StopStage.speaks : StopStage → Bool
  | .shuttingDown _ | .shutDown | .flushing _ => true
  | _ => false

/-- The call is a stop that says farewell. -/
def Call.speaks : Call → Bool
  | .stop s => s.speaks
  | _ => false

namespace Life

variable {l l' : Life}

/-- The lock of the client is held by a stop that says farewell. -/
def Spoken (l : Life) : Prop :=
  ∀ k, l.speaker = some k → ∃ call, l.calls[k]? = some call ∧ call.speaks = true

lemma Spoken.put {old new : Call} (h : l.Spoken) (hspeaker : l'.speaker = l.speaker)
    (hcalls : l'.calls = l.calls.set n new) (hc : l.calls[n]? = some old)
    (hold : old.speaks = true → new.speaks = true) : l'.Spoken := by
  intro k hk
  obtain ⟨call, hcall, hspeaks⟩ := h k (hspeaker ▸ hk)
  by_cases hkn : n = k
  · subst hkn
    cases hc.symm.trans hcall
    refine ⟨new, ?_, hold hspeaks⟩
    rw [hcalls, List.getElem?_set_self (List.getElem?_eq_some_iff.1 hc).1]
  · exact ⟨call, by rw [hcalls, List.getElem?_set_ne hkn, hcall], hspeaks⟩

lemma Spoken.begin {new : Call} (h : l.Spoken) (hspeaker : l'.speaker = l.speaker)
    (hcalls : l'.calls = l.calls ++ [new]) : l'.Spoken := by
  intro k hk
  obtain ⟨call, hcall, hspeaks⟩ := h k (hspeaker ▸ hk)
  refine ⟨call, ?_, hspeaks⟩
  rw [hcalls, List.getElem?_append_left (List.getElem?_eq_some_iff.1 hcall).1, hcall]

lemma Spoken.step (h : l.Spoken) (hstep : l.Step m l') : l'.Spoken := by
  cases hstep with
  | other | exit | record | report => exact h
  | callStart | callStop | callDocument => exact h.begin rfl rfl
  | @sendShutdown n s hc hfree hs =>
    intro k hk
    cases hk
    refine ⟨.stop s, List.getElem?_set_self (List.getElem?_eq_some_iff.1 hc).1, ?_⟩
    rcases hs with rfl | ⟨id, rfl⟩ <;> rfl
  | close => exact nofun
  | finishShutdown hc | flush _ hc => exact h.put rfl rfl hc fun _ => rfl
  | document _ hc | lockForStart hc | refuseStarted hc | refuseStopped hc | refrain hc
  | misplaced _ hc | unlaunched _ hc | launch _ hc | answer hc | installHandlers hc
  | sendInitialize _ hc | finishInitialize hc | discard _ hc | collapse hc | abortStart hc
  | finishDiscard hc | markRunning hc | checkAlive hc | finishStart hc | cancelStart hc
  | lockForStop hc | rest hc | stopWatching hc | checkProcess hc | leave hc | stopProcess hc
  | miss hc | awaitExit hc =>
    exact h.put rfl rfl hc nofun

/-- Nobody says farewell unless it is the holder of the phase. -/
lemma Spoken.silent (h : l.Spoken) (hsound : l.Sound) {call : Call} (hheld : l.holder = some n)
    (hc : l.calls[n]? = some call) (hsilent : call.speaks = false) : l.speaker = none := by
  by_contra hsome
  obtain ⟨k, hk⟩ := Option.ne_none_iff_exists'.1 hsome
  obtain ⟨other, hother, hspeaks⟩ := h k hk
  have hholds : other.holds = true := by
    cases other with
    | stop s =>
      cases s with
      | shuttingDown | shutDown | flushing => rfl
      | _ => exact absurd hspeaks (by simp [Call.speaks, StopStage.speaks])
    | _ => exact absurd hspeaks (by simp [Call.speaks])
  cases (hsound.alone hother hholds).symm.trans hheld
  cases hother.symm.trans hc
  exact absurd (hspeaks.symm.trans hsilent) (by simp)

end Life

/-- The program can go on by itself. -/
def GoesOn (c : Connection) : Prop := ∃ m, m.isOwn = true ∧ (c.move? m).isSome = true

lemma start_moves {s : StartStage} (hasked : c.cancelled = true)
    (hc : c.calls[n]? = some (.start s)) (hs : s.isInside = true) : c.GoesOn := by
  cases s with
  | waiting | done => exact absurd hs (by simp [StartStage.isInside])
  | entered => exact ⟨.launch n (.ok 0), rfl, by simp [move?, launch, hc, hasked]⟩
  | spawned | answering | equipped | initializing | discarding =>
    exact ⟨.abortStart n, rfl, by simp [move?, abortStart, hc, hasked]⟩
  | launched => exact ⟨.markRunning n, rfl, by simp [move?, markRunning, hc]⟩
  | marked => exact ⟨.checkAlive n, rfl, by simp [move?, checkAlive, hc]⟩
  | checked => exact ⟨.finishStart n, rfl, by simp [move?, finishStart, hc]⟩

lemma stop_inside_moves {s : StopStage} (hsilent : s.speaks = false → c.speaker = none)
    (hc : c.calls[n]? = some (.stop s)) (hs : s.isInside = true) : c.GoesOn := by
  cases s with
  | called | waiting | done => exact absurd hs (by simp [StopStage.isInside])
  | taken =>
    -- the worker is awaited, which needs the client for the batch that it holds
    have hfree := hsilent rfl
    cases hforwarder : c.forwarder with
    | holding events =>
      refine ⟨.forward, rfl, ?_⟩
      simp only [move?, forward, hforwarder, hfree]
      split <;> rfl
    | _ => exact ⟨.stopWatching n, rfl, by simp [move?, stopWatching, hc, hforwarder]⟩
  | unwatched =>
    refine ⟨.sendShutdown n, rfl, ?_⟩
    simp only [move?, sendShutdown, hc, hsilent rfl, Option.isSome_none, Bool.false_eq_true,
      if_false]
    split
    · rfl
    · split <;> rfl
  | shuttingDown id =>
    cases hwake : c.session.wake? id with
    | some wake => exact ⟨.finishShutdown n, rfl, by simp [move?, finishShutdown, hc, hwake]⟩
    | none => exact ⟨.expireShutdown n, rfl, by simp [move?, expireShutdown, hc, hwake]⟩
  | shutDown =>
    refine ⟨.flush n, rfl, ?_⟩
    simp only [move?, flush, hc]
    split <;> rfl
  | flushing ticket => exact ⟨.close n true, rfl, by simp [move?, close, hc]⟩
  | closed => exact ⟨.checkProcess n, rfl, by simp [move?, checkProcess, hc]⟩
  | leaving =>
    refine ⟨.stopProcess n, rfl, ?_⟩
    simp only [move?, stopProcess, hc]
    split <;> rfl
  | ending => exact ⟨.awaitExit n true, rfl, by simp [move?, awaitExit, hc]⟩

/-- Whoever holds the lock of the phase goes on once a stop has asked for the end. -/
lemma holder_moves (hsound : c.life.Sound) (hspoken : c.life.Spoken) (hasked : c.cancelled = true)
    (hheld : c.holder = some n) : c.GoesOn := by
  obtain ⟨call, hc, hholds⟩ := hsound.held n hheld
  cases call with
  | start s => exact start_moves hasked hc hholds
  | stop s => exact stop_inside_moves (fun hs => hspoken.silent hsound hheld hc hs) hc hholds
  | document => exact absurd hholds (by simp [Call.holds])

/-- **As long as a stop is not over, the program goes on.** -/
theorem stop_moves {s : StopStage} (hsound : c.life.Sound) (hspoken : c.life.Spoken)
    (hc : c.calls[n]? = some (.stop s)) (hs : s.rank ≠ 0) : c.GoesOn := by
  have hfits := hsound.fits n _ hc
  have hinside : s.isInside = true → c.GoesOn := fun hinside =>
    stop_inside_moves (fun hsilent => hspoken.silent hsound (hfits.2 hinside).2 hc hsilent) hc
      hinside
  cases s with
  | done => exact absurd rfl hs
  | called => exact ⟨.cancelStart n, rfl, by simp [move?, cancelStart, hc]⟩
  | waiting =>
    -- the stop has asked for the end, so whoever holds the lock is on the way out
    cases hholder : c.holder with
    | some k => exact holder_moves hsound hspoken hfits.1 hholder
    | none =>
      refine ⟨.lockForStop n, rfl, ?_⟩
      simp only [move?, lockForStop, hc, hholder]
      split <;> rfl
  | _ => exact hinside rfl

/-- Where the program has come to rest, every stop is over. -/
lemma stop_done {s : StopStage} (hsound : c.life.Sound) (hspoken : c.life.Spoken)
    (hquiet : c.Quiet) (hc : c.calls[n]? = some (.stop s)) : ∃ r, s = .done r := by
  by_contra hopen
  have hrank : s.rank ≠ 0 := by
    cases s with
    | done r => exact absurd ⟨r, rfl⟩ hopen
    | _ => simp [StopStage.rank]
  obtain ⟨m, hown, hmove⟩ := stop_moves hsound hspoken hc hrank
  exact absurd (hquiet m hown ▸ hmove) (by simp)

end ServerLink.Connection
