import Mathlib
import ServerLink.Proofs.Connection.Progress
import ServerLink.Proofs.Connection.SingleUse
import ServerLink.Proofs.Frame.Header

/-!
# How a stop comes out

A stop looks whether the server is alive before it asks it to leave, and between the two the worker
that waits for the server's end may record it.

**The gap.**  `Missed moves n`: in a run of these moves the end was recorded after the stop `n` had
looked and before it asked.  `Tells` follows a stop through a run and says of each stage whether
this has happened; `Tells.step` is its one step.

**The result.**  `takesLeave_of_run`: every stop comes to its end, and it succeeds unless the end of
the server fell into its gap; then it fails with the error of a server that was not started.  A stop
that comes after another is over succeeds and leaves everything as it is.
-/

namespace ServerLink.Connection

open Process

/-- The end of a server was recorded between the look of the stop `n` and its request to leave. -/
def Missed (moves : List Move) (n : Nat) : Prop :=
  ∃ pid, [.checkProcess n, .record pid, .stopProcess n].Sublist moves

/-- What a stop leaves behind that finds nothing to stop. -/
def rested (c : Connection) (n : Nat) : Connection :=
  ({ c with documents := [] }.note
    (Log.debug ("Stop requested with no running " ++ serverName))).put n (.stop (.done (.ok ())))

/-- The stops of a run. -/
structure TakesLeave (moves : List Move) (c : Connection) : Prop where
  /-- A stop that is over has succeeded, unless the end of the server fell between its look and its
  request. -/
  result : ∀ (n : Nat) r, c.calls[n]? = some (.stop (.done r)) →
    r = .ok () ∧ ¬ Missed moves n ∨ r = .error (.process .notStarted) ∧ Missed moves n
  /-- What the program does by itself is bounded by the calls and the batches of changes. -/
  bounded : moves.countP Move.isOwn ≤ 20 * c.calls.length + moves.countP Move.isBatch
  /-- Where the program has nothing more to do by itself, every stop is over. -/
  returns : c.Quiet → ∀ (n : Nat) s, c.calls[n]? = some (.stop s) → ∃ r, s = .done r
  /-- The program gets there by itself. -/
  ends : ∃ rest d, (∀ m ∈ rest, m.isOwn = true) ∧ c.moves? rest = some d ∧ d.Quiet
    ∧ ∀ (n : Nat) s, d.calls[n]? = some (.stop s) → ∃ r, s = .done r
  /-- Once a stop is over, any other is over after two moves at most, which forget the documents and
  change nothing else. -/
  further : ∀ (k : Nat) r, c.calls[k]? = some (.stop (.done r)) →
    ∀ (n : Nat) s, c.calls[n]? = some (.stop s) →
      s = .called ∧ c.move? (.cancelStart n) = some (c.put n (.stop .waiting))
      ∨ s = .waiting ∧ c.move? (.lockForStop n) = some (c.rested n)
      ∨ ∃ r, s = .done r
  /-- There are documents to forget only if one was told of after the stop had taken the lock. -/
  forgotten : ∀ (k : Nat) r, c.calls[k]? = some (.stop (.done r)) → c.documents ≠ [] →
    ∃ j, [.lockForStop k, .sendDocument j].Sublist moves
  /-- A stop that is not over by then succeeds, whatever happens. -/
  succeeds : ∀ (k : Nat) r, c.calls[k]? = some (.stop (.done r)) →
    ∀ n : Nat, (∀ r, c.calls[n]? ≠ some (.stop (.done r))) →
    ∀ rest d, c.moves? rest = some d → ∀ r, d.calls[n]? = some (.stop (.done r)) → r = .ok ()

variable {c d : Connection} {m : Move} {moves : List Move} {n : Nat}

/-! ## Moves in their order -/

lemma sublist_concat_of_ne (xs : List Move) {x : Move} (hne : x ≠ m) :
    (xs ++ [x]).Sublist (moves ++ [m]) ↔ (xs ++ [x]).Sublist moves := by
  refine ⟨fun h => ?_, fun h => h.trans (List.sublist_append_left moves [m])⟩
  rw [← List.reverse_sublist, List.reverse_concat, List.reverse_concat] at h
  rw [← List.reverse_sublist, List.reverse_concat]
  exact h.of_cons_of_ne hne

lemma missed_concat_of_ne (hm : m ≠ .stopProcess n) : Missed (moves ++ [m]) n ↔ Missed moves n :=
  exists_congr fun pid => sublist_concat_of_ne [.checkProcess n, .record pid] (Ne.symm hm)

lemma missed_concat :
    Missed (moves ++ [.stopProcess n]) n ↔ ∃ pid, [.checkProcess n, .record pid].Sublist moves := by
  refine exists_congr fun pid => ?_
  show ([Move.checkProcess n, .record pid] ++ [Move.stopProcess n]).Sublist
    (moves ++ [.stopProcess n]) ↔ _
  exact List.append_sublist_append_right _

lemma not_missed (h : .checkProcess n ∉ moves) : ¬ Missed moves n := by
  rintro ⟨pid, hsub⟩
  exact h (hsub.subset (by simp))

namespace Life

variable {l l' : Life}

/-! ## What a stop relies on -/

/-- While a stop holds the lock, nobody else touches the process: only the end that is recorded
takes back that it runs. -/
lemma Sound.isRunning_kept {s : StopStage} (h : l.Sound) (hc : l.calls[n]? = some (.stop s))
    (hs : s.isInside = true) (hstep : l.Step m l') (hrecord : ∀ pid, m ≠ .record pid)
    (hstops : m ≠ .stopProcess n) (hawaits : ∀ late, m ≠ .awaitExit n late) :
    l'.process.isRunning = l.process.isRunning := by
  have hheld := (h.stop hc hs).2.2
  have hstart : ∀ {k : Nat} {s : StartStage}, l.calls[k]? = some (.start s) → s.isInside = true →
      l'.process.isRunning = l.process.isRunning := by
    intro k s hk hinside
    cases (h.start hk hinside).2.2.symm.trans hheld
    exact absurd (hk.symm.trans hc) (by simp)
  have hstop : ∀ {k : Nat} {s : StopStage}, l.calls[k]? = some (.stop s) → s.isInside = true →
      n = k :=
    fun hk hinside => Option.some.inj (hheld.symm.trans (h.stop hk hinside).2.2)
  cases hstep with
  | launch _ hk | finishDiscard hk => exact hstart hk rfl
  | discard _ hk hunder => exact hstart hk (isInside_of_isUnderWay hunder)
  | abortStart hk hunder =>
    rcases hunder with hunder | ⟨e, rfl⟩
    · exact hstart hk (isInside_of_isUnderWay hunder)
    · exact hstart hk rfl
  | stopProcess hk => exact absurd (congrArg Move.stopProcess (hstop hk rfl).symm) hstops
  | awaitExit hk => exact absurd (by rw [hstop hk rfl]) (hawaits _)
  | exit hp | report hp => exact Supervisor.isRunning_of_unrecorded rfl (by simp) hp
  | record => exact absurd rfl (hrecord _)
  | _ => rfl

lemma documents_kept (hstep : l.Step m l') (hm : ∀ k, m ≠ .sendDocument k)
    (hnone : l.documents = []) :
    l'.documents = [] := by
  cases hstep with
  | document urls hc _ _ hurls => exact hurls (hm _) hnone
  | lockForStop | rest => rfl
  | _ => exact hnone

lemma documents_lockForStop (hstep : l.Step (.lockForStop n) l') : l'.documents = [] := by
  cases hstep with
  | lockForStop | rest => rfl
  | other hother => exact absurd hother (by simp [Move.isOther])
  | document _ _ hm => exact absurd hm (by simp [Move.reporter?])
  | discard _ _ _ hm | collapse _ _ hm => exact absurd hm (by simp [Move.initializer?])
  | finishShutdown _ hm => exact absurd hm (by simp)

lemma calls_checkProcess (hstep : l.Step (.checkProcess n) l') :
    l.calls[n]? = some (.stop .closed) := by
  cases hstep with
  | checkProcess hc | leave hc => exact hc
  | other hother => exact absurd hother (by simp [Move.isOther])
  | document _ _ hm => exact absurd hm (by simp [Move.reporter?])
  | discard _ _ _ hm | collapse _ _ hm => exact absurd hm (by simp [Move.initializer?])
  | finishShutdown _ hm => exact absurd hm (by simp)

lemma isRunning_record {pid : Nat} (hstep : l.Step (.record pid) l') :
    l'.process.isRunning = false := by
  cases hstep with
  | record hp => exact Supervisor.isRunning_of_recorded hp
  | other hother => exact absurd hother (by simp [Move.isOther])
  | document _ _ hm => exact absurd hm (by simp [Move.reporter?])
  | discard _ _ _ hm | collapse _ _ hm => exact absurd hm (by simp [Move.initializer?])
  | finishShutdown _ hm => exact absurd hm (by simp)

/-! ## The gap -/

/-- What the moves so far tell of the stop `n`, by the stage that it has come to. -/
def Tells (moves : List Move) (n : Nat) (l : Life) : Option Call → Prop
  | some (.stop .leaving) => .checkProcess n ∈ moves
      ∧ (l.process.isRunning = false ↔ ∃ pid, [.checkProcess n, .record pid].Sublist moves)
  | some (.stop .ending) => ¬ Missed moves n
  | some (.stop (.done r)) =>
    r = .ok () ∧ ¬ Missed moves n ∨ r = .error (.process .notStarted) ∧ Missed moves n
  | _ => .checkProcess n ∉ moves

lemma Tells.stays (h : Tells moves n l l.calls[n]?) (hsound : l.Sound) (hstep : l.Step m l')
    (hm : m.call? ≠ some n) (hsame : l'.calls[n]? = l.calls[n]?) :
    Tells (moves ++ [m]) n l' l'.calls[n]? := by
  have hcheck : m ≠ .checkProcess n := by rintro rfl; exact hm rfl
  have hstops : m ≠ .stopProcess n := by rintro rfl; exact hm rfl
  have hawaits : ∀ late, m ≠ .awaitExit n late := by rintro late rfl; exact hm rfl
  have hunseen : .checkProcess n ∉ moves → .checkProcess n ∉ moves ++ [m] := by
    intro hnot
    simpa [hnot] using Ne.symm hcheck
  rw [hsame]
  cases hc : l.calls[n]? with
  | none => exact hunseen (by rw [hc] at h; exact h)
  | some call =>
    rw [hc] at h
    cases call with
    | stop s =>
      cases s with
      | leaving =>
        -- the stop has looked, and the end of the server may be recorded now
        obtain ⟨hseen, hgap⟩ := h
        refine ⟨List.mem_append_left _ hseen, ?_⟩
        by_cases hrecord : ∃ pid, m = .record pid
        · obtain ⟨pid, rfl⟩ := hrecord
          refine iff_of_true (isRunning_record hstep) ⟨pid, ?_⟩
          exact (List.append_sublist_append_right _).2 (List.singleton_sublist.2 hseen)
        · rw [hsound.isRunning_kept hc rfl hstep (fun pid hpid => hrecord ⟨pid, hpid⟩) hstops
            hawaits, hgap]
          exact exists_congr fun pid => (sublist_concat_of_ne [.checkProcess n]
            fun hpid => hrecord ⟨pid, hpid.symm⟩).symm
      | ending => exact fun hmissed => h ((missed_concat_of_ne hstops).1 hmissed)
      | done r =>
        exact h.imp (And.imp_right (missed_concat_of_ne hstops).not.2)
          (And.imp_right (missed_concat_of_ne hstops).2)
      | _ => exact hunseen h
    | _ => exact hunseen h

lemma Tells.turns {old new : Call} (h : Tells moves n l (some old)) (hsound : l.Sound)
    (hstep : l.Step m l') (hc : l.calls[n]? = some old) (hnext : l.Next m n old new) :
    Tells (moves ++ [m]) n l' (some new) := by
  have hover : .checkProcess n ∉ moves → m ≠ .stopProcess n → ¬ Missed (moves ++ [m]) n :=
    fun hunseen hm => (missed_concat_of_ne hm).not.2 (not_missed hunseen)
  have hunseen : .checkProcess n ∉ moves → l.calls[n]? ≠ some (.stop .closed) →
      .checkProcess n ∉ moves ++ [m] := by
    intro hnot hopen
    have hcheck : m ≠ .checkProcess n := by
      rintro rfl
      exact hopen (calls_checkProcess hstep)
    simpa [hnot] using Ne.symm hcheck
  cases old with
  | start s =>
    cases new with
    | start => exact hunseen h (by simp [hc])
    | _ => exact hnext.elim
  | document s =>
    cases new with
    | document => exact hunseen h (by simp [hc])
    | _ => exact hnext.elim
  | stop s =>
    cases new with
    | stop s' =>
      cases s with
      | called => obtain ⟨rfl, rfl⟩ := hnext; simpa [Tells] using h
      | waiting =>
        obtain ⟨rfl, rfl | rfl⟩ := hnext
        · simpa [Tells] using h
        · exact .inl ⟨rfl, hover h (by simp)⟩
      | taken => obtain ⟨rfl, rfl⟩ := hnext; simpa [Tells] using h
      | unwatched => obtain ⟨rfl, rfl | ⟨id, rfl⟩⟩ := hnext <;> simpa [Tells] using h
      | shuttingDown => obtain ⟨rfl | rfl, rfl⟩ := hnext <;> simpa [Tells] using h
      | shutDown => obtain ⟨rfl, ticket, rfl⟩ := hnext; simpa [Tells] using h
      | flushing => obtain ⟨⟨late, rfl⟩, rfl⟩ := hnext; simpa [Tells] using h
      | closed =>
        obtain ⟨rfl, ⟨halive, rfl⟩ | ⟨-, rfl⟩⟩ := hnext
        · -- the gap opens, and nothing has been recorded in it
          refine ⟨by simp, ?_⟩
          rw [hsound.isRunning_kept hc rfl hstep nofun nofun nofun, halive]
          refine iff_of_false (by simp) ?_
          rintro ⟨pid, hsub⟩
          have hbefore : [.checkProcess n, .record pid].Sublist moves :=
            (sublist_concat_of_ne [.checkProcess n] (by simp)).1 hsub
          exact h (hbefore.subset (by simp))
        · exact .inl ⟨rfl, hover h (by simp)⟩
      | leaving =>
        -- the gap closes: what the stop finds says whether the end was recorded in it
        obtain ⟨rfl, ⟨halive, rfl⟩ | ⟨hgone, rfl⟩⟩ := hnext
        · intro hmissed
          have hgone := h.2.2 (missed_concat.1 hmissed)
          exact absurd (hgone.symm.trans halive) (by simp)
        · exact .inr ⟨rfl, missed_concat.2 (h.2.1 hgone)⟩
      | ending =>
        obtain ⟨⟨late, rfl⟩, rfl⟩ := hnext
        exact .inl ⟨rfl, (missed_concat_of_ne (by simp)).not.2 h⟩
      | done => exact hnext.elim
    | _ => exact hnext.elim

/-- **The moves tell how a stop comes out.** -/
lemma Tells.step (h : Tells moves n l l.calls[n]?) (hsound : l.Sound) (hstep : l.Step m l') :
    Tells (moves ++ [m]) n l' l'.calls[n]? := by
  cases becomes_of_step hstep n with
  | stays hm hsame => exact h.stays hsound hstep hm hsame
  | turns hc hc' hnext =>
    rw [hc] at h
    exact hc' ▸ h.turns hsound hstep hc hnext
  | @begins new hm hc hc' hnew =>
    rw [hc] at h
    have hcheck : m ≠ .checkProcess n := by
      rintro rfl
      exact absurd hm (by simp [Move.call?])
    have hunseen : .checkProcess n ∉ moves ++ [m] := by
      have hnot : Move.checkProcess n ∉ moves := h
      simpa [hnot] using Ne.symm hcheck
    rw [hc']
    cases new with
    | start | document => exact hunseen
    | stop s =>
      cases hnew
      exact hunseen

/-! ## The documents -/

/-- A stop that had the lock has forgotten the documents that were open. -/
def Forgets (moves : List Move) (k : Nat) (l : Life) : Prop :=
  ∀ s, l.calls[k]? = some (.stop s) → s.rank < 9 →
    .lockForStop k ∈ moves
      ∧ (l.documents ≠ [] → ∃ j, [.lockForStop k, .sendDocument j].Sublist moves)

/-- Only what is told after that can open one. -/
lemma Forgets.stays {k : Nat} (hstep : l.Step m l') (htaken : .lockForStop k ∈ moves)
    (hopen : l.documents ≠ [] → ∃ j, [.lockForStop k, .sendDocument j].Sublist moves) :
    .lockForStop k ∈ moves ++ [m]
      ∧ (l'.documents ≠ [] → ∃ j, [.lockForStop k, .sendDocument j].Sublist (moves ++ [m])) := by
  refine ⟨List.mem_append_left _ htaken, fun hsome => ?_⟩
  by_cases hsends : ∃ j, m = .sendDocument j
  · obtain ⟨j, rfl⟩ := hsends
    exact ⟨j, (List.append_sublist_append_right _).2 (List.singleton_sublist.2 htaken)⟩
  · have hbefore : l.documents ≠ [] :=
      fun hnone => hsome (documents_kept hstep (fun j hj => hsends ⟨j, hj⟩) hnone)
    obtain ⟨j, hsub⟩ := hopen hbefore
    exact ⟨j, hsub.trans (List.sublist_append_left moves [m])⟩

lemma Forgets.step {k : Nat} (h : Forgets moves k l) (hstep : l.Step m l') :
    Forgets (moves ++ [m]) k l' := by
  intro s' hc' hs'
  cases becomes_of_step hstep k with
  | stays _ hsame =>
    obtain ⟨htaken, hopen⟩ := h s' (hsame ▸ hc') hs'
    exact Forgets.stays hstep htaken hopen
  | begins _ _ hnew hbegins =>
    cases hnew.symm.trans hc'
    rw [show s' = .called from hbegins] at hs'
    exact absurd hs' (by simp [StopStage.rank])
  | @turns old _ hc hnew hnext =>
    cases hnew.symm.trans hc'
    cases old with
    | stop s =>
      by_cases hs : s.rank < 9
      · obtain ⟨htaken, hopen⟩ := h s hc hs
        exact Forgets.stays hstep htaken hopen
      · cases s with
        | waiting =>
          obtain ⟨rfl, -⟩ := hnext
          exact ⟨by simp, fun hsome => absurd (documents_lockForStop hstep) hsome⟩
        | called =>
          obtain ⟨-, rfl⟩ := hnext
          exact absurd hs' (by simp [StopStage.rank])
        | _ => exact absurd hs (by simp [StopStage.rank])
    | _ => exact hnext.elim

/-! ## A stop that comes later -/

/-- Where the connection is over, a stop that is not waits for the lock, or has not asked for the
end. -/
lemma Sound.stop_over {s : StopStage} (h : l.Sound) (hover : l.Over)
    (hc : l.calls[n]? = some (.stop s)) : s = .called ∨ s = .waiting ∨ ∃ r, s = .done r := by
  have hinside : s.isInside = false := by
    rw [Bool.eq_false_iff]
    exact fun hs => absurd ((h.stop hc hs).2.2.symm.trans hover.2.1) (by simp)
  cases s with
  | called => exact .inl rfl
  | waiting => exact .inr (.inl rfl)
  | done r => exact .inr (.inr ⟨r, rfl⟩)
  | _ => exact absurd hinside (by simp [StopStage.isInside])

/-- Where the connection is over, a stop that comes to its end succeeds. -/
lemma succeeds_step (h : l.Sound) (hover : l.Over)
    (hdone : ∀ r, l.calls[n]? = some (.stop (.done r)) → r = .ok ()) (hstep : l.Step m l') :
    ∀ r, l'.calls[n]? = some (.stop (.done r)) → r = .ok () := by
  intro r hc'
  cases becomes_of_step hstep n with
  | stays _ hsame => exact hdone r (hsame ▸ hc')
  | begins _ _ hnew hbegins =>
    cases hnew.symm.trans hc'
    exact absurd (show StopStage.done r = .called from hbegins) (by simp)
  | @turns old _ hc hnew hnext =>
    cases hnew.symm.trans hc'
    cases old with
    | stop s =>
      rcases h.stop_over hover hc with rfl | rfl | ⟨r, rfl⟩
      · exact absurd hnext.2 (by simp)
      · simpa using hnext.2
      · exact hnext.elim
    | _ => exact hnext.elim

end Life

lemma cancelStart_over (hasked : c.cancelled = true) (hc : c.calls[n]? = some (.stop .called)) :
    c.move? (.cancelStart n) = some (c.put n (.stop .waiting)) := by
  simp only [move?, cancelStart, hc]
  rw [← hasked]
  rfl

lemma lockForStop_over (hover : c.life.Over) (hc : c.calls[n]? = some (.stop .waiting)) :
    c.move? (.lockForStop n) = some (c.rested n) := by
  obtain ⟨hphase, hfree, -, hrunning, -⟩ := hover
  cases c
  simp only [life] at hphase hfree hrunning
  subst hphase hfree hrunning
  simp only [move?, lockForStop, hc]
  rfl

/-! ## Runs -/

lemma moves?_append (b : Connection) (first rest : List Move) :
    b.moves? (first ++ rest) = (b.moves? first).bind fun c => c.moves? rest := by
  induction first generalizing b with
  | nil => rfl
  | cons m first ih =>
    show (b.move? m).bind (moves? · (first ++ rest)) = ((b.move? m).bind (moves? · first)).bind _
    rw [Option.bind_assoc]
    exact Option.bind_congr fun c _ => ih c

section Run

variable {config : Config} {home : Path} {processId : Nat}

/-- What every move preserves holds of a run and the moves it is made of. -/
lemma moves?_stays {P : List Move → Life → Prop}
    (h : (new config home processId).moves? moves = some c)
    (hstart : P [] (new config home processId).life)
    (hstep : ∀ {moves l l' m}, l.Sound → P moves l → l.Step m l' → P (moves ++ [m]) l') :
    P moves c.life := by
  induction moves using List.reverseRecOn generalizing c with
  | nil =>
    cases h
    exact hstart
  | append_singleton moves m ih =>
    rw [moves?_append] at h
    obtain ⟨b, hb, hlast⟩ := Option.bind_eq_some_iff.1 h
    obtain ⟨e, hm, he⟩ := Option.bind_eq_some_iff.1 hlast
    cases he
    exact hstep (Reachable.refl.moves? hb).sound (ih hb) (step_of_move? hm)

/-- **Every stop of a run comes out as its moves tell.** -/
theorem takesLeave_of_run (h : (new config home processId).moves? moves = some c) :
    TakesLeave moves c := by
  have hreach : Reachable (new config home processId) c := Reachable.refl.moves? h
  have hsound := hreach.sound
  have hspoken : c.life.Spoken :=
    hreach.stays (sound_new config home processId) (fun _ hspoken hstep => hspoken.step hstep) nofun
  have hover : ∀ {k : Nat} {r}, c.calls[k]? = some (.stop (.done r)) → c.life.Over :=
    fun hk => (hsound.fits _ _ hk).1.2
  constructor
  case result =>
    intro n r hc
    have htells : Life.Tells moves n c.life c.calls[n]? :=
      moves?_stays (P := fun moves l => Life.Tells moves n l l.calls[n]?) h (by exact nofun)
        fun hsound htells hstep => htells.step hsound hstep
    rw [hc] at htells
    exact htells
  case bounded =>
    have hle := countP_isOwn_le h
    have hnew : (new config home processId).work = 0 := rfl
    have hnone : (new config home processId).calls.length = 0 := rfl
    omega
  case returns => exact fun hquiet n s hc => stop_done hsound hspoken hquiet hc
  case ends =>
    -- the moves of the program alone lead to a state where it has none left
    obtain ⟨rest, d, hown, hd, hquiet⟩ := exists_quiet c
    have hrun : Reachable c d := Reachable.refl.moves? hd
    have hspoken' := hrun.stays hsound (fun _ hspoken hstep => hspoken.step hstep) hspoken
    exact ⟨rest, d, hown, hd, hquiet, fun n s hc =>
      stop_done (hreach.moves? hd).sound hspoken' hquiet hc⟩
  case further =>
    intro k r hk n s hc
    have hasked : c.cancelled = true := (hsound.fits k _ hk).1.1
    rcases hsound.stop_over (hover hk) hc with rfl | rfl | hdone
    · exact .inl ⟨rfl, cancelStart_over hasked hc⟩
    · exact .inr (.inl ⟨rfl, lockForStop_over (hover hk) hc⟩)
    · exact .inr (.inr hdone)
  case forgotten =>
    intro k r hk hsome
    have hforgets : Life.Forgets moves k c.life :=
      moves?_stays (P := fun moves l => Life.Forgets moves k l) h nofun
        fun _ hforgets hstep => hforgets.step hstep
    exact (hforgets _ hk (by simp [StopStage.rank])).2 hsome
  case succeeds =>
    intro k r hk n hopen rest d hd
    have hrun : Reachable c d := Reachable.refl.moves? hd
    refine (hrun.stays
      (P := fun l => l.Over ∧ ∀ r, l.calls[n]? = some (.stop (.done r)) → r = .ok ())
      hsound (fun hl hboth hstep => ?_) ⟨hover hk, fun r hc => absurd hc (hopen r)⟩).2
    exact ⟨hl.over_step hboth.1 hstep, Life.succeeds_step hl hboth.1 hboth.2 hstep⟩

end Run

/-! ## A server that leaves in the gap -/

/-- What the server answers to the handshake. -/
def consent : String :=
  "\x7b\"jsonrpc\":\"2.0\",\"id\":1,\"result\":\x7b\"capabilities\":\x7b\x7d\x7d\x7d"

/-- The handshake is opened, and the server's answer is on its way. -/
def opening : List Move :=
  [.callStart, .lockForStart 0, .launch 0 (.ok 7), .installHandlers 0, .installHandlers 0,
    .sendInitialize 0, .loop (.write none)]

/-- The connection runs, and a stop looks whether the server is alive.  The server ends and the end
is recorded before the stop asks it to leave.  Another stop follows. -/
def parting : List Move :=
  [.loop .dispatch, .finishInitialize 0 (.ok ⟨Utf8.ofString "/w"⟩), .markRunning 0, .checkAlive 0,
    .finishStart 0, .callStop, .cancelStart 1, .lockForStop 1, .stopWatching 1, .sendShutdown 1,
    .expireShutdown 1, .flush 1, .close 1 true, .checkProcess 1, .exit 7 (some 0), .record 7,
    .stopProcess 1, .callStop, .cancelStart 2, .lockForStop 2]

/-- The handshake, the answer, and the two stops. -/
def crossing : List Move := opening ++ .loop (.absorb (Frame.ofMessage consent)) :: parting

def opened : Connection := (workshop.moves? opening).getD workshop

/-- The answer is in hand. -/
def answered : Connection :=
  { opened with session := { opened.session with phase := .handing consent } }

def crossed : Connection := (answered.moves? parting).getD workshop

lemma absorb_consent :
    opened.move? (.loop (.absorb (Frame.ofMessage consent))) = some answered := by
  have habsorb : opened.session.decoder.absorb (Frame.ofMessage consent)
      = ⟨⟨[], [consent]⟩, [], none⟩ := Frame.absorb_ofMessage (by decide) rfl
  simp only [move?, Rpc.Session.move?, habsorb]
  rfl

set_option maxRecDepth 4000 in
lemma moves_opening : workshop.moves? opening = some opened := rfl

set_option maxRecDepth 4000 in
lemma moves_parting : answered.moves? parting = some crossed := rfl

lemma moves_crossing : workshop.moves? crossing = some crossed := by
  rw [crossing, moves?_append, moves_opening, Option.bind_some, moves?, absorb_consent,
    Option.bind_some, moves_parting]

set_option maxRecDepth 4000 in
lemma calls_crossed : crossed.calls = [.start (.done (.ok ())),
    .stop (.done (.error (.process .notStarted))), .stop (.done (.ok ()))] := rfl

lemma missed_crossed :
    crossed.calls[1]? = some (.stop (.done (.error (.process .notStarted)))) := by
  rw [calls_crossed]
  rfl

/-- The first stop missed the server, and the second one succeeds. -/
theorem takesLeave_crossing : workshop.moves? crossing = some crossed
    ∧ crossed.calls[1]? = some (.stop (.done (.error (.process .notStarted))))
    ∧ crossed.calls[2]? = some (.stop (.done (.ok ()))) ∧ Missed crossing 1
    ∧ TakesLeave crossing crossed := by
  have hleave : TakesLeave crossing crossed := takesLeave_of_run moves_crossing
  refine ⟨moves_crossing, missed_crossed, by rw [calls_crossed]; rfl, ?_, hleave⟩
  rcases hleave.result 1 _ missed_crossed with ⟨hok, -⟩ | ⟨-, hgap⟩
  · exact absurd hok (by simp)
  · exact hgap

/-- **A stop may fail because the server is already gone.** -/
theorem stop_fails : ¬ ∀ moves c, workshop.moves? moves = some c →
    ∀ (n : Nat) r, c.calls[n]? = some (.stop (.done r)) → r = .ok () := by
  intro hall
  exact absurd (hall crossing crossed moves_crossing 1 _ missed_crossed) (by simp)

end ServerLink.Connection
