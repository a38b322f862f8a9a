import ServerLink.Proofs.Connection.Answers

/-!
# Calls about documents that fail

A call about a document can fail after it has looked whether the document is one to forward: the
connection does not run, the server has ended, or the notification cannot be queued.  Other calls,
the workers and the server go on meanwhile, and callers need not take turns.

**The standing connection.**  `Connection.verdict` is what a connection has for a caller if nothing
changes, and `Alike` lists all that it looks at besides the documents.

**The attempt.**  `Attempt` follows the call `s.calls.length`, which began at `s`, through whatever
happens since; `Attempt.step` is its one step.

**Failures.**  **`failedCall_of_history`**: a call that failed has queued nothing, and has touched
nothing but its own stage, with one exception: a document that is closed stops being open before the
two things that can fail.  So the same call fails alike once more while the connection stands as it
stood, but who closes a document once more is told that it is none of those that are forwarded.
-/

namespace ServerLink.Connection

open Process

variable {b c d s : Connection} {m : Move} {n : Nat} {r : Report} {e : ConnectionError} {url : Url}
  {late : List (Connection × Move)} {x : Connection × Move}

/-! ## The standing connection -/

/-- Why a connection lets no call pass, if it lets none. -/
def halt? (c : Connection) : Option ConnectionError :=
  match c.phase, c.running with
  | .running, true => none
  | .running, false => some .serverExited
  | _, _ => some .notStarted

/-- Why a report cannot be queued, if it cannot. -/
def refusal? (c : Connection) (r : Report) : Option EditorError := (c.queue r).2

/-- What a caller is told who says something about a document while the connection stands as it
does. -/
def verdict (c : Connection) (r : Report) : Except ConnectionError Bool :=
  if c.admits r then
    match c.halt? with
    | some e => .error e
    | none =>
      match c.refusal? r with
      | some e => .error (.editor e)
      | none => .ok true
  else .ok false

/-- Besides the documents, all is alike that a call about a document looks at. -/
structure Alike (b c : Connection) : Prop where
  config : c.config = b.config
  phase : c.phase = b.phase
  running : c.running = b.running
  ready : c.client.ready = b.client.ready
  isOpen : c.session.isOpen = b.session.isOpen

lemma refusal?_eq (c : Connection) (r : Report) : c.refusal? r =
    if c.client.ready then
      match r.params with
      | .error e => some e
      | .ok _ => if c.session.isOpen then none else some (.rpc Rpc.Session.unsent)
    else some .notReady := by
  rw [refusal?, queue_eq, Editor.Client.tell.eq_def]
  cases c.client.ready with
  | false => rfl
  | true =>
    cases r.params with
    | error e => rfl
    | ok p =>
      simp only [Rpc.Session.notify, Rpc.Session.move?]
      cases c.session.isOpen <;> rfl

/-- What cannot be queued leaves the session as it is. -/
lemma queue_of_refusal? {e : EditorError} (h : c.refusal? r = some e) :
    (c.queue r).1 = c.session := by
  rw [refusal?] at h
  rw [queue_eq, Editor.Client.tell.eq_def] at h ⊢
  cases hready : c.client.ready with
  | false => rfl
  | true =>
    rw [hready] at h
    cases hparams : r.params with
    | error e => rfl
    | ok p =>
      simp only [hparams, Rpc.Session.notify, Rpc.Session.move?] at h ⊢
      cases hopen : c.session.isOpen with
      | true => simp [hopen] at h
      | false => rfl

lemma Alike.halt?_eq (h : b.Alike c) : c.halt? = b.halt? := by
  rw [halt?, halt?, h.phase, h.running]

lemma Alike.refusal?_eq (h : b.Alike c) (r : Report) : c.refusal? r = b.refusal? r := by
  rw [Connection.refusal?_eq, Connection.refusal?_eq, h.ready, h.isOpen]

lemma admits_eq (hconfig : c.config = b.config) (hdocuments : c.documents = b.documents)
    (r : Report) :
    c.admits r = b.admits r := by
  cases r <;> simp only [admits, isOpen, hconfig, hdocuments]

lemma remaining_eq (hdocuments : c.documents = b.documents) (r : Report) :
    c.remaining r = b.remaining r := by
  cases r <;> simp only [remaining, hdocuments]

lemma Alike.verdict_eq (h : b.Alike c) (hdocuments : c.documents = b.documents) (r : Report) :
    c.verdict r = b.verdict r := by
  rw [verdict, verdict, admits_eq h.config hdocuments, h.halt?_eq, h.refusal?_eq]

lemma verdict_of_halt? (hadmits : c.admits r = true) (h : c.halt? = some e) :
    c.verdict r = .error e := by
  rw [verdict, if_pos hadmits, h]

lemma verdict_of_refusal? {e : EditorError} (hadmits : c.admits r = true) (hgo : c.halt? = none)
    (h : c.refusal? r = some e) : c.verdict r = .error (.editor e) := by
  rw [verdict, if_pos hadmits, hgo]
  simp only [h]

lemma verdict_of_queued (hadmits : c.admits r = true) (hgo : c.halt? = none)
    (h : c.refusal? r = none) : c.verdict r = .ok true := by
  rw [verdict, if_pos hadmits, hgo]
  simp only [h]

lemma verdict_of_ignored (hignored : c.admits r = false) : c.verdict r = .ok false := by
  rw [verdict, hignored, if_neg (by simp)]

/-! ## The moves of a call -/

lemma checkRunning_halts (h : c.move? (.checkRunning n) = some d) :
    ∃ r, c.calls[n]? = some (.document (.known r))
    ∧ (c.halt? = none ∧ d = c.put n (.document (.passed r))
      ∨ ∃ e, c.halt? = some e ∧ d = c.put n (.document (.done (.error e)))) := by
  obtain ⟨r, hc, hcases⟩ := checkRunning_cases h
  refine ⟨r, hc, ?_⟩
  obtain ⟨hphase, hrunning, rfl⟩ | ⟨hphase, hrunning, rfl⟩ | ⟨hphase, rfl⟩ := hcases
  · exact .inl ⟨by rw [halt?, hphase, hrunning], rfl⟩
  · exact .inr ⟨_, by rw [halt?, hphase, hrunning], rfl⟩
  · refine .inr ⟨_, ?_, rfl⟩
    rw [halt?]
    cases hc' : c.phase with
    | running => exact absurd hc' hphase
    | _ => rfl

lemma sendDocument_refuses (h : c.move? (.sendDocument n) = some d) :
    ∃ r, c.calls[n]? = some (.document (.passed r))
    ∧ (c.refusal? r = none ∧ d.calls = c.calls.set n (.document (.done (.ok true)))
      ∨ ∃ e, c.refusal? r = some e ∧ d = c.put n (.document (.done (.error (.editor e))))) := by
  rw [move?, sendDocument] at h
  split at h
  · rename_i r hc _
    refine ⟨r, hc, ?_⟩
    rcases hqueue : c.queue r with ⟨session, none | e⟩
    · refine .inl ⟨by rw [refusal?, hqueue], ?_⟩
      rw [hqueue] at h
      cases h
      split
      · split <;> rfl
      · rfl
    · have hrefusal : c.refusal? r = some e := by rw [refusal?, hqueue]
      have hsession : session = c.session := by
        rw [← queue_of_refusal? hrefusal, hqueue]
      rw [hqueue] at h
      cases h
      exact .inr ⟨e, hrefusal, by rw [hsession]; rfl⟩
  · cases h

/-! ## The attempt -/

/-- The move changes how far the call `n` is, and with its first one a document that is closed stops
being open.  Nothing else changes, and so nothing is queued. -/
def Spared (n : Nat) (r : Report) (x : Connection × Move) : Prop :=
  ∃ stage : DocumentStage,
    x.2 = .filterDocument n
      ∧ x.1.move x.2 = { x.1.put n (.document stage) with documents := x.1.remaining r }
    ∨ x.2 ≠ .filterDocument n ∧ x.1.move x.2 = x.1.put n (.document stage)

/-- Nobody but the call `n` opens or closes a document. -/
def Alone (n : Nat) (late : List (Connection × Move)) : Prop :=
  ∀ x ∈ late, x.2.call? ≠ some n → (x.1.move x.2).documents = x.1.documents

/-- What made a call fail that has looked at its document. -/
inductive Cause (n : Nat) (r : Report) (late : List (Connection × Move)) :
    ConnectionError → Prop where
  | halted {b : Connection} {e : ConnectionError} (hchecked : (b, .checkRunning n) ∈ late)
      (hhalt : b.halt? = some e) : Cause n r late e
  | refused {a b : Connection} {e : EditorError} (hchecked : (a, .checkRunning n) ∈ late)
      (hgo : a.halt? = none) (hsends : (b, .sendDocument n) ∈ late)
      (hrefusal : b.refusal? r = some e) :
      Cause n r late (.editor e)

/-- What has come of the first move of a call that found its document among those to forward. -/
structure Taken (s : Connection) (r : Report) (late : List (Connection × Move)) (c : Connection) :
    Prop where
  spared : ∀ x ∈ late, x.2.call? = some s.calls.length → Spared s.calls.length r x
  admitted : ∃ b, (b, .filterDocument s.calls.length) ∈ late ∧ b.admits r = true
  alone : Alone s.calls.length late → s.admits r = true ∧ c.documents = s.remaining r

/-- How far a call about a document has come that began at `s`, and what it has done by then. -/
inductive Attempt (s : Connection) (r : Report) (late : List (Connection × Move)) (c : Connection) :
    Prop where
  | asked (hc : c.calls[s.calls.length]? = some (.document (.asked r)))
      (hunmoved : ∀ x ∈ late, x.2.call? ≠ some s.calls.length)
      (halone : Alone s.calls.length late → c.documents = s.documents)
  | known (hc : c.calls[s.calls.length]? = some (.document (.known r)))
      (htaken : Taken s r late c)
  | passed {b : Connection} (hc : c.calls[s.calls.length]? = some (.document (.passed r)))
      (htaken : Taken s r late c) (hchecked : (b, .checkRunning s.calls.length) ∈ late)
      (hgo : b.halt? = none)
  | ignored (hc : c.calls[s.calls.length]? = some (.document (.done (.ok false))))
      (halone : Alone s.calls.length late → s.admits r = false)
  | failed {e : ConnectionError}
      (hc : c.calls[s.calls.length]? = some (.document (.done (.error e))))
      (htaken : Taken s r late c) (hcause : Cause s.calls.length r late e)
  | queued {a b : Connection} (hc : c.calls[s.calls.length]? = some (.document (.done (.ok true))))
      (halone : Alone s.calls.length late → s.admits r = true)
      (hchecked : (a, .checkRunning s.calls.length) ∈ late) (hgo : a.halt? = none)
      (hsends : (b, .sendDocument s.calls.length) ∈ late) (hqueued : b.refusal? r = none)

lemma Alone.left (h : Alone n (late ++ [x])) : Alone n late :=
  fun y hy => h y (List.mem_append_left _ hy)

lemma Cause.append (h : Cause n r late e) (x : Connection × Move) : Cause n r (late ++ [x]) e := by
  cases h with
  | halted hchecked hhalt => exact .halted (List.mem_append_left _ hchecked) hhalt
  | refused hchecked hgo hsends hrefusal =>
    exact .refused (List.mem_append_left _ hchecked) hgo (List.mem_append_left _ hsends) hrefusal

/-- What a call has come to stays, whatever is done that leaves the documents as they are. -/
lemma Taken.next (h : Taken s r late c)
    (hspared : m.call? = some s.calls.length → Spared s.calls.length r (c, m))
    (hkept : Alone s.calls.length (late ++ [(c, m)]) → d.documents = c.documents) :
    Taken s r (late ++ [(c, m)]) d where
  spared := List.forall_mem_append.2 ⟨h.spared, List.forall_mem_singleton.2 hspared⟩
  admitted := by
    obtain ⟨b, hb, hadmits⟩ := h.admitted
    exact ⟨b, List.mem_append_left _ hb, hadmits⟩
  alone := by
    intro halone
    obtain ⟨hadmits, hdocuments⟩ := h.alone halone.left
    exact ⟨hadmits, (hkept halone).trans hdocuments⟩

/-- A later move of the call itself leaves the documents alone as long as it does not succeed. -/
lemma Taken.own {stage : DocumentStage} (h : Taken s r late c) (hm : c.move? m = some d)
    (hd : d = c.put s.calls.length (.document stage))
    (hfilters : m ≠ .filterDocument s.calls.length) :
    Taken s r (late ++ [(c, m)]) d :=
  h.next (fun _ => ⟨stage, .inr ⟨hfilters, (move_eq hm).trans hd⟩⟩) fun _ => hd ▸ rfl

/-- What others do is no matter for how far a call has come. -/
lemma Attempt.other (h : Attempt s r late c) (hm : c.move? m = some d)
    (hcall : m.call? ≠ some s.calls.length) : Attempt s r (late ++ [(c, m)]) d := by
  have hsame : ∀ {call : Call}, c.calls[s.calls.length]? = some call →
      d.calls[s.calls.length]? = some call :=
    fun hc => Life.getElem?_kept (step_of_move? hm) hc hcall
  have hkept : Alone s.calls.length (late ++ [(c, m)]) → d.documents = c.documents :=
    fun h => move_eq hm ▸ h (c, m) (by simp) hcall
  have hnext : Taken s r late c → Taken s r (late ++ [(c, m)]) d :=
    fun htaken => htaken.next (fun hown => absurd hown hcall) hkept
  have hmem : ∀ {y : Connection × Move}, y ∈ late → y ∈ late ++ [(c, m)] :=
    fun hy => List.mem_append_left _ hy
  cases h with
  | asked hc hunmoved halone =>
    refine .asked (hsame hc) ?_ fun h => (hkept h).trans (halone h.left)
    exact List.forall_mem_append.2 ⟨hunmoved, List.forall_mem_singleton.2 hcall⟩
  | known hc htaken => exact .known (hsame hc) (hnext htaken)
  | passed hc htaken hchecked hgo => exact .passed (hsame hc) (hnext htaken) (hmem hchecked) hgo
  | ignored hc halone => exact .ignored (hsame hc) fun h => halone h.left
  | failed hc htaken hcause => exact .failed (hsame hc) (hnext htaken) (hcause.append _)
  | queued hc halone hchecked hgo hsends hqueued =>
    exact .queued (hsame hc) (fun h => halone h.left) (hmem hchecked) hgo (hmem hsends) hqueued

lemma Attempt.filterDocument (h : Attempt s r late c) (hconfig : c.config = s.config)
    (hm : c.move? (.filterDocument s.calls.length) = some d) :
    Attempt s r (late ++ [(c, Move.filterDocument s.calls.length)]) d := by
  obtain ⟨r', hc, hcases⟩ := filterDocument_cases hm
  cases h with
  | asked hc' hunmoved halone =>
    cases hc.symm.trans hc'
    have hlength := (List.getElem?_eq_some_iff.1 hc).1
    obtain ⟨hignored, rfl⟩ | ⟨hadmitted, rfl⟩ := hcases
    · refine .ignored (List.getElem?_set_self hlength) fun h => ?_
      exact (admits_eq hconfig (halone h.left) r).symm.trans hignored
    · refine .known (List.getElem?_set_self hlength) ⟨?_, ⟨c, by simp, hadmitted⟩, fun h => ?_⟩
      · exact List.forall_mem_append.2 ⟨fun x hx hown => absurd hown (hunmoved x hx),
          List.forall_mem_singleton.2 fun _ => ⟨.known r, .inl ⟨rfl, move_eq hm⟩⟩⟩
      · exact ⟨(admits_eq hconfig (halone h.left) r).symm.trans hadmitted,
          remaining_eq (halone h.left) r⟩
  | known hc' | passed hc' | ignored hc' | failed hc' | queued hc' => cases hc.symm.trans hc'

lemma Attempt.checkRunning (h : Attempt s r late c)
    (hm : c.move? (.checkRunning s.calls.length) = some d) :
    Attempt s r (late ++ [(c, Move.checkRunning s.calls.length)]) d := by
  obtain ⟨r', hc, hcases⟩ := checkRunning_halts hm
  cases h with
  | known hc' htaken =>
    cases hc.symm.trans hc'
    have hlength := (List.getElem?_eq_some_iff.1 hc).1
    have hnow : (c, Move.checkRunning s.calls.length) ∈
        late ++ [(c, Move.checkRunning s.calls.length)] := by simp
    obtain ⟨hgo, hd⟩ | ⟨e, hhalt, hd⟩ := hcases
    · have htaken' := htaken.own hm hd (by simp)
      subst hd
      exact .passed (List.getElem?_set_self hlength) htaken' hnow hgo
    · have htaken' := htaken.own hm hd (by simp)
      subst hd
      exact .failed (List.getElem?_set_self hlength) htaken' (.halted hnow hhalt)
  | asked hc' | passed hc' | ignored hc' | failed hc' | queued hc' => cases hc.symm.trans hc'

lemma Attempt.sendDocument (h : Attempt s r late c)
    (hm : c.move? (.sendDocument s.calls.length) = some d) :
    Attempt s r (late ++ [(c, Move.sendDocument s.calls.length)]) d := by
  obtain ⟨r', hc, hcases⟩ := sendDocument_refuses hm
  cases h with
  | passed hc' htaken hchecked hgo =>
    cases hc.symm.trans hc'
    have hlength := (List.getElem?_eq_some_iff.1 hc).1
    have hnow : (c, Move.sendDocument s.calls.length) ∈
        late ++ [(c, Move.sendDocument s.calls.length)] := by simp
    obtain ⟨hqueued, hcalls⟩ | ⟨e, hrefusal, hd⟩ := hcases
    · refine .queued (hcalls ▸ List.getElem?_set_self hlength) (fun h => (htaken.alone h.left).1)
        (List.mem_append_left _ hchecked) hgo hnow hqueued
    · have htaken' := htaken.own hm hd (by simp)
      subst hd
      exact .failed (List.getElem?_set_self hlength) htaken'
        (.refused (List.mem_append_left _ hchecked) hgo hnow hrefusal)
  | asked hc' | known hc' | ignored hc' | failed hc' | queued hc' => cases hc.symm.trans hc'

lemma Attempt.exists_stage (h : Attempt s r late c) :
    ∃ stage, c.calls[s.calls.length]? = some (.document stage) := by
  cases h with
  | asked hc | known hc | passed hc | ignored hc | failed hc | queued hc => exact ⟨_, hc⟩

/-- **Every move carries an attempt on.** -/
lemma Attempt.step (h : Attempt s r late c) (hconfig : c.config = s.config)
    (hm : c.move? m = some d) :
    Attempt s r (late ++ [(c, m)]) d := by
  by_cases hcall : m.call? = some s.calls.length
  · obtain ⟨stage, hc⟩ := h.exists_stage
    rcases Life.move_of_document (step_of_move? hm) hcall hc with rfl | rfl | rfl
    · exact h.filterDocument hconfig hm
    · exact h.checkRunning hm
    · exact h.sendDocument hm
  · exact h.other hm hcall

/-- The attempt of a call from its beginning on. -/
lemma attempt_of_history (h : History move? s ((s, .callDocument r) :: late) c) :
    Attempt s r late c := by
  have hlate := history_after_call h
  clear h
  induction hlate with
  | start => exact .asked List.getElem?_concat_length (by simp) fun _ => rfl
  | @step late c d m run next ih =>
    have hconfig : c.config = s.config :=
      History.invariant (P := fun c => c.config = s.config) rfl
        (fun hm hc => (config_of_move? hm).trans hc) run
    exact ih.step hconfig next

/-- **An attempt that meets no change comes to the verdict.** -/
lemma Attempt.result_eq {result : Except ConnectionError (Option Bool)} (h : Attempt s r late c)
    (halone : Alone s.calls.length late) (halike : ∀ x ∈ late, s.Alike x.1)
    (hresult : c.result? s.calls.length = some result) : result = (s.verdict r).map some := by
  cases h with
  | asked hc | known hc | passed hc =>
    rw [result?, hc] at hresult
    cases hresult
  | ignored hc hignored =>
    rw [result?, hc] at hresult
    cases hresult
    rw [verdict_of_ignored (hignored halone)]
  | failed hc htaken hcause =>
    rw [result?, hc] at hresult
    cases hresult
    have hadmits := (htaken.alone halone).1
    cases hcause with
    | halted hchecked hhalt =>
      rw [verdict_of_halt? hadmits ((halike _ hchecked).halt?_eq ▸ hhalt)]
    | refused hchecked hgo hsends hrefusal =>
      rw [verdict_of_refusal? hadmits ((halike _ hchecked).halt?_eq ▸ hgo)
        ((halike _ hsends).refusal?_eq r ▸ hrefusal)]
  | queued hc hadmits hchecked hgo hsends hqueued =>
    rw [result?, hc] at hresult
    cases hresult
    rw [verdict_of_queued (hadmits halone) ((halike _ hchecked).halt?_eq ▸ hgo)
      ((halike _ hsends).refusal?_eq r ▸ hqueued)]

/-! ## Calls that failed -/

/-- From `s` to `c` nothing has changed that calls about documents look at, but for what the call
did that began at `s`. -/
structure Unchanged (s : Connection) (late : List (Connection × Move)) (c : Connection) : Prop where
  along : ∀ x ∈ late, s.Alike x.1
  now : s.Alike c
  alone : Alone s.calls.length late

/-- What a caller is told who says the same once more after an error. -/
def Report.onceMore (e : ConnectionError) : Report → Except ConnectionError Bool
  | .closed _ => .ok false
  | _ => .error e

/-- What a call about a document leaves behind that began at `s` and failed. -/
structure FailedCall (s : Connection) (r : Report) (late : List (Connection × Move))
    (c : Connection) (e : ConnectionError) : Prop where
  /-- It has queued nothing and changed nothing but how far it is, and a document that is closed
  stopped being open. -/
  spared : ∀ x ∈ late, x.2.call? = some s.calls.length → Spared s.calls.length r x
  /-- It had found its document among those that are forwarded. -/
  admitted : ∃ b, (b, .filterDocument s.calls.length) ∈ late ∧ b.admits r = true
  /-- The error is what the connection had for it. -/
  cause : Cause s.calls.length r late e
  /-- The documents that are open are those that were open before, without the one that is
  closed. -/
  documents : Alone s.calls.length late → s.admits r = true ∧ c.documents = s.remaining r
  /-- The same call comes to the same error while the connection stands as it stood, but for a
  document that is closed. -/
  onceMore : ∀ after d, History move? c ((c, .callDocument r) :: after) d → Unchanged s late c →
    Unchanged c after d → ∀ result, d.result? c.calls.length = some result →
    result = (r.onceMore e).map some
  /-- It goes on where the locks are free, and is over after three moves at most. -/
  returns : ∀ after d, History move? c ((c, .callDocument r) :: after) d →
    after.countP (fun x => x.2.call? = some c.calls.length) ≤ 3
    ∧ (d.result? c.calls.length = none → d.holder = none → d.speaker = none →
      ∃ m, m.call? = some c.calls.length ∧ (d.move? m).isSome = true)

/-- What is closed is no longer among the documents, and all the others are. -/
lemma verdict_onceMore (hverdict : s.verdict r = .error e) (halike : s.Alike c)
    (hdocuments : c.documents = s.remaining r) : c.verdict r = r.onceMore e := by
  cases r with
  | closed url =>
    refine verdict_of_ignored ?_
    simp [admits, isOpen, Report.url, hdocuments, remaining]
  | _ => exact (halike.verdict_eq hdocuments _).trans hverdict

/-- **A call about a document that failed** has queued nothing and left the open documents as they
were, unless it closed one. -/
theorem failedCall_of_history (h : History move? s ((s, .callDocument r) :: late) c)
    (hfailed : c.result? s.calls.length = some (.error e)) : FailedCall s r late c e := by
  have hattempt := attempt_of_history h
  obtain ⟨htaken, hcause⟩ : Taken s r late c ∧ Cause s.calls.length r late e := by
    cases hattempt with
    | failed hc htaken hcause =>
      rw [result?, hc] at hfailed
      cases hfailed
      exact ⟨htaken, hcause⟩
    | asked hc | known hc | passed hc | ignored hc | queued hc =>
      rw [result?, hc] at hfailed
      cases hfailed
  constructor
  case spared => exact htaken.spared
  case admitted => exact htaken.admitted
  case cause => exact hcause
  case documents => exact htaken.alone
  case onceMore =>
    intro after d hafter hfirst hsecond result hresult
    -- the first attempt came to what `s` had for it, and the second one comes to what `c` has
    have hverdict : s.verdict r = .error e := by
      have hsame := hattempt.result_eq hfirst.alone hfirst.along hfailed
      cases hcases : s.verdict r with
      | error e' =>
        rw [hcases] at hsame
        cases hsame
        rfl
      | ok told =>
        rw [hcases] at hsame
        cases hsame
    have hdocuments := (htaken.alone hfirst.alone).2
    rw [(attempt_of_history hafter).result_eq hsecond.alone hsecond.along hresult,
      verdict_onceMore hverdict hfirst.now hdocuments]
  case returns =>
    intro after d hafter
    obtain ⟨now, -, hle⟩ := countP_turns_le (history_after_call hafter) List.getElem?_concat_length
    refine ⟨(Nat.le_add_right _ _).trans hle, fun hopen hholder hspeaker => ?_⟩
    obtain ⟨stage, hc⟩ := (attempt_of_history hafter).exists_stage
    exact exists_move_of_document hc hopen hholder hspeaker

/-! ## A server that ends while a document is open -/

/-- The server ends, and the news of it comes. -/
def ending : List Move := [.exit 7 (some 1), .record 7, .report 7]

/-- Something is said about the document when the server is gone. -/
def saying (r : Report) (n : Nat) : List Move :=
  [.callDocument r, .filterDocument n, .checkRunning n]

/-- The document has a new text. -/
def amended : Report := .changed sheet 2 "a = 2"

/-- The document is open, and its server is gone. -/
def sheetLeft : Connection := (sheetOpened.moves? ending).getD workshop

def sheetAmended : Connection := (sheetLeft.moves? (saying amended 2)).getD workshop

def sheetAmendedTwice : Connection := (sheetAmended.moves? (saying amended 3)).getD workshop

def sheetClosed : Connection := (sheetLeft.moves? (saying (.closed sheet) 2)).getD workshop

lemma history_sheetLeft :
    History move? workshop (untilOpened ++ trail move? sheetOpened ending) sheetLeft :=
  history_untilOpened.append (history_of_moves? (moves?_of_isSome (by decide +kernel) _))

lemma history_sheetAmended :
    History move? sheetLeft (trail move? sheetLeft (saying amended 2)) sheetAmended :=
  history_of_moves? (moves?_of_isSome (by decide +kernel) _)

lemma history_sheetAmendedTwice :
    History move? sheetAmended (trail move? sheetAmended (saying amended 3)) sheetAmendedTwice :=
  history_of_moves? (moves?_of_isSome (by decide +kernel) _)

lemma history_sheetClosed :
    History move? sheetLeft (trail move? sheetLeft (saying (.closed sheet) 2)) sheetClosed :=
  history_of_moves? (moves?_of_isSome (by decide +kernel) _)

/-- A call that only looks, while nothing else happens, changes nothing that others look at. -/
lemma unchanged_of_looks (h : History move? s ((s, .callDocument r) :: late) c)
    (hchecks : ∀ x ∈ late, x.2 = .filterDocument s.calls.length
      ∨ x.2 = .checkRunning s.calls.length) :
    Unchanged s late c := by
  have hown : ∀ x ∈ late, x.2.call? = some s.calls.length := by
    intro x hx
    rcases hchecks x hx with hx | hx <;> rw [hx] <;> rfl
  suffices hall : (∀ x ∈ late, s.Alike x.1) ∧ s.Alike c from
    ⟨hall.1, hall.2, fun x hx hother => absurd (hown x hx) hother⟩
  have hlate := history_after_call h
  clear h hown
  induction hlate with
  | start => exact ⟨by simp, ⟨rfl, rfl, rfl, rfl, rfl⟩⟩
  | @step late c d m _ hm ih =>
    obtain ⟨halong, hnow⟩ := ih fun x hx => hchecks x (List.mem_append_left _ hx)
    refine ⟨List.forall_mem_append.2 ⟨halong, List.forall_mem_singleton.2 hnow⟩, ?_⟩
    have hcheck : m = .filterDocument s.calls.length ∨ m = .checkRunning s.calls.length :=
      hchecks (c, m) (by simp)
    rcases hcheck with rfl | rfl
    · obtain ⟨r, -, ⟨-, rfl⟩ | ⟨-, rfl⟩⟩ := filterDocument_cases hm <;>
        exact ⟨hnow.config, hnow.phase, hnow.running, hnow.ready, hnow.isOpen⟩
    · obtain ⟨r, -, ⟨-, -, rfl⟩ | ⟨-, -, rfl⟩ | ⟨-, rfl⟩⟩ := checkRunning_cases hm <;>
        exact ⟨hnow.config, hnow.phase, hnow.running, hnow.ready, hnow.isOpen⟩

lemma length_sheetLeft : sheetLeft.calls.length = 2 := by decide +kernel

/-- The new text is refused, and refused once more. -/
theorem failedCall_amended : ∃ late after,
    History move? sheetLeft ((sheetLeft, .callDocument amended) :: late) sheetAmended
    ∧ sheetAmended.result? sheetLeft.calls.length = some (.error .serverExited)
    ∧ FailedCall sheetLeft amended late sheetAmended .serverExited
    ∧ sheetAmended.documents = [sheet]
    ∧ History move? sheetAmended ((sheetAmended, .callDocument amended) :: after) sheetAmendedTwice
    ∧ sheetAmendedTwice.result? sheetAmended.calls.length = some (.error .serverExited) := by
  have hlength' : sheetAmended.calls.length = 3 := by decide +kernel
  have hresult : sheetAmended.result? sheetLeft.calls.length = some (.error .serverExited) := rfl
  have hfailed := failedCall_of_history history_sheetAmended hresult
  have hfirst : Unchanged sheetLeft _ sheetAmended :=
    unchanged_of_looks history_sheetAmended fun x hx => by
      simpa [length_sheetLeft] using History.mem_of_mem_trail hx
  have hsecond : Unchanged sheetAmended _ sheetAmendedTwice :=
    unchanged_of_looks history_sheetAmendedTwice fun x hx => by
      simpa [hlength'] using History.mem_of_mem_trail hx
  obtain ⟨again, hagain⟩ :
      ∃ again, sheetAmendedTwice.result? sheetAmended.calls.length = some again :=
    Option.isSome_iff_exists.1 (by decide +kernel)
  refine ⟨_, _, history_sheetAmended, hresult, hfailed, (hfailed.documents hfirst.alone).2,
    history_sheetAmendedTwice, hagain.trans ?_⟩
  rw [hfailed.onceMore _ _ history_sheetAmendedTwice hfirst hsecond again hagain]
  rfl

/-- **A call that fails may change what is open**: the server is gone, the document is closed, the
caller is told of the error, and the document is open no more. -/
theorem closed_forgotten : ¬ ∀ past s r late c e, History move? workshop past s →
    History move? s ((s, .callDocument r) :: late) c →
    c.result? s.calls.length = some (.error e) → Unchanged s late c →
      c.documents = s.documents := by
  intro hall
  have hunchanged : Unchanged sheetLeft _ sheetClosed :=
    unchanged_of_looks history_sheetClosed fun x hx => by
      simpa [length_sheetLeft] using History.mem_of_mem_trail hx
  have hsame := hall _ sheetLeft _ _ sheetClosed .serverExited history_sheetLeft history_sheetClosed
    rfl hunchanged
  have hopen : sheetLeft.documents.length = 1 := by decide +kernel
  have hclosed : sheetClosed.documents.length = 0 := by decide +kernel
  rw [hsame, hopen] at hclosed
  cases hclosed

end ServerLink.Connection
