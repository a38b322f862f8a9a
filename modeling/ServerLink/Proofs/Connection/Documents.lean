import ServerLink.Proofs.Connection.Farewell
import ServerLink.Proofs.Connection.Wire
import ServerLink.Proofs.History

/-!
# The documents that callers have opened

Callers may take turns: each call is over before the next one begins, while the workers, the server
and the watched files go on beside them.

**Turns.**  `Sequential past` says that the callers of a history took turns.  Then one call at most
is under way (`Life.Lone`).

**Moves.**  `filterDocument_cases`, `checkRunning_cases` and `sendDocument_cases` are the three
moves of a call about a document, with what each makes of the connection.

**Documents.**  `Stands past url` says, of what callers asked and were told alone, that the document
was opened and neither closed nor forgotten since.  **`orderly_of_history`**: where callers took
turns the open documents are the ones that stand, but for the one that is just being closed, and a
connection that does not run has none.
-/

namespace ServerLink.Connection

open Process

variable {b c d : Connection} {m : Move} {n : Nat} {url : Url} {past : List (Connection × Move)}

/-! ## The moves of a call about a document -/

/-- Whether what a caller says about a document is to be forwarded. -/
def admits (c : Connection) : Report → Bool
  | .opened url language _ _ => c.config.selector.accepts url language
  | r => c.isOpen r.url

/-- The documents that are open once a report is admitted. -/
def remaining (c : Connection) : Report → List Url
  | .closed url => c.documents.filter (· != url)
  | _ => c.documents

/-- The documents that are open once a report is forwarded. -/
def grown (c : Connection) : Report → List Url
  | .opened url _ _ _ => if c.isOpen url then c.documents else c.documents ++ [url]
  | _ => c.documents

lemma filterDocument_cases (h : c.move? (.filterDocument n) = some d) :
    ∃ r, c.calls[n]? = some (.document (.asked r))
      ∧ (c.admits r = false ∧ d = c.put n (.document (.done (.ok false)))
        ∨ c.admits r = true
          ∧ d = { c.put n (.document (.known r)) with documents := c.remaining r }) := by
  rw [move?, filterDocument] at h
  split at h
  · rename_i r hc
    refine ⟨r, hc, ?_⟩
    rcases ite_eq_iff.1 h with ⟨hignored, h⟩ | ⟨hadmitted, h⟩ <;> cases h
    · refine .inl ⟨?_, rfl⟩
      cases r <;> simpa [admits] using hignored
    · refine .inr ⟨?_, ?_⟩
      · cases r <;> simpa [admits] using hadmitted
      · cases r <;> rfl
  · cases h

lemma checkRunning_cases (h : c.move? (.checkRunning n) = some d) :
    ∃ r, c.calls[n]? = some (.document (.known r))
      ∧ (c.phase = .running ∧ c.running = true ∧ d = c.put n (.document (.passed r))
        ∨ c.phase = .running ∧ c.running = false
          ∧ d = c.put n (.document (.done (.error .serverExited)))
        ∨ c.phase ≠ .running ∧ d = c.put n (.document (.done (.error .notStarted)))) := by
  rw [move?, checkRunning] at h
  split at h
  · rename_i r hc _
    refine ⟨r, hc, ?_⟩
    cases hphase : c.phase with
    | running =>
      cases hrunning : c.running with
      | true =>
        simp only [hphase, hrunning] at h
        exact .inl ⟨rfl, rfl, (Option.some.inj h).symm⟩
      | false =>
        simp only [hphase, hrunning] at h
        exact .inr (.inl ⟨rfl, rfl, (Option.some.inj h).symm⟩)
    | _ =>
      simp only [hphase] at h
      exact .inr (.inr ⟨by simp, (Option.some.inj h).symm⟩)
  · cases h

/-- A client that tells of something queues a message, or it has an error and queues nothing. -/
lemma tells_or_error (c : Connection) (method : String) (params : Except EditorError Json) :
    (∃ e, (c.client.tell c.session method params).2 = some e ∧ c.tells method params = none)
      ∨ (c.client.tell c.session method params).2 = none ∧ ∃ p, params = .ok p
        ∧ c.tells method params = some (.notification ⟨Rpc.version, method, some p⟩) := by
  rw [tells, Editor.Client.tell.eq_def]
  cases c.client.ready with
  | false => exact .inl ⟨_, rfl, rfl⟩
  | true =>
    cases params with
    | error e => exact .inl ⟨e, rfl, rfl⟩
    | ok p =>
      obtain ⟨hnone, hnote⟩ | ⟨hsome, hnone⟩ := c.session.notify_cases method (some p)
      · refine .inr ⟨?_, p, rfl, hnote⟩
        simp [hnone]
      · refine .inl ⟨.rpc Rpc.Session.unsent, ?_, hnone⟩
        simp [hsome]

lemma sendDocument_cases (h : c.move? (.sendDocument n) = some d) :
    ∃ r, c.calls[n]? = some (.document (.passed r))
      ∧ ((∃ e, c.message? (.sendDocument n) = none ∧ d.documents = c.documents
          ∧ d.calls = c.calls.set n (.document (.done (.error (.editor e)))))
        ∨ ∃ params, r.params = .ok params
          ∧ c.message? (.sendDocument n) = some (.notification ⟨Rpc.version, r.method, some params⟩)
          ∧ d.documents = c.grown r ∧ d.calls = c.calls.set n (.document (.done (.ok true)))) := by
  rw [move?, sendDocument] at h
  split at h
  · rename_i r hc _
    have hmessage : c.message? (.sendDocument n) = c.tells r.method r.params := by rw [message?, hc]
    refine ⟨r, hc, ?_⟩
    have hcases := c.tells_or_error r.method r.params
    rw [← queue_eq, ← hmessage] at hcases
    rcases hqueue : c.queue r with ⟨s, none | e⟩
    · rw [hqueue] at h hcases
      obtain ⟨e, he, -⟩ | ⟨-, params, hparams, hsaid⟩ := hcases
      · cases he
      · refine .inr ⟨params, hparams, hsaid, ?_⟩
        cases h
        cases r with
        | opened url language version text =>
          have hopen : ({ c.put n (.document (.done (.ok true))) with session := s }).isOpen url
              = c.isOpen url := rfl
          rw [grown]
          simp only [hopen]
          cases c.isOpen url <;> exact ⟨rfl, rfl⟩
        | _ => exact ⟨rfl, rfl⟩
    · rw [hqueue] at h hcases
      obtain ⟨e', -, hnone⟩ | ⟨hnone, -⟩ := hcases
      · cases h
        exact .inl ⟨e, hnone, rfl, rfl⟩
      · cases hnone
  · cases h

/-- A call about a document that is not over can go on where the locks are free. -/
lemma exists_move_of_document {stage : DocumentStage} (hc : c.calls[n]? = some (.document stage))
    (hopen : c.result? n = none) (hholder : c.holder = none) (hspeaker : c.speaker = none) :
    ∃ m, m.call? = some n ∧ (c.move? m).isSome = true := by
  cases stage with
  | asked r =>
    refine ⟨.filterDocument n, rfl, ?_⟩
    simp only [move?, filterDocument, hc]
    split_ifs <;> rfl
  | known r => exact ⟨.checkRunning n, rfl, by simp [move?, checkRunning, hc, hholder]⟩
  | passed r =>
    refine ⟨.sendDocument n, rfl, ?_⟩
    simp only [move?, sendDocument, hc, hspeaker]
    split <;> rfl
  | done result =>
    rw [result?, hc] at hopen
    cases hopen

/-! ## Turns -/

/-- A caller calls. -/
def Move.begins : Move → Bool
  | .callStart | .callStop | .callDocument _ => true
  | _ => false

/-- Callers took turns: all calls were over whenever one began. -/
def Sequential (past : List (Connection × Move)) : Prop :=
  ∀ x ∈ past, x.2.begins = true → ∀ n < x.1.calls.length, (x.1.result? n).isSome = true

lemma isSome_result? {call : Call} (hc : c.calls[n]? = some call) :
    (c.result? n).isSome = true ↔ call.rank = 0 := by
  rw [result?, hc]
  rcases call with s | s | s <;> cases s <;> simp [Call.rank, StartStage.rank, StopStage.rank,
    DocumentStage.rank]

lemma Sequential.rank_eq_zero {x : Connection × Move} {call : Call} (h : Sequential past)
    (hx : x ∈ past) (hbegins : x.2.begins = true) (hc : x.1.calls[n]? = some call) :
    call.rank = 0 :=
  (isSome_result? hc).1 (h x hx hbegins n (List.getElem?_eq_some_iff.1 hc).1)

namespace Life

variable {l l' : Life}

/-- One call at most is under way. -/
def Lone (l : Life) : Prop :=
  ∀ (j k : Nat) (a b : Call), l.calls[j]? = some a → l.calls[k]? = some b →
    a.rank ≠ 0 → b.rank ≠ 0 → j = k

lemma begins_of_longer (hstep : l.Step m l') (h : l'.calls.length ≠ l.calls.length) :
    m.begins = true := by
  cases hstep with
  | callStart | callStop | callDocument => rfl
  | _ => exact absurd (by simp [put, failed, left]) h

/-- **A call that is under way stays alone** where none begins before all are over. -/
lemma Lone.step (h : l.Lone) (hstep : l.Step m l')
    (hturns : m.begins = true → ∀ (k : Nat) call, l.calls[k]? = some call → call.rank = 0) :
    l'.Lone := by
  intro j k a b ha hb hja hkb
  cases turns_of_step hstep with
  | aside _ hcalls =>
    rw [hcalls] at ha hb
    exact h j k a b ha hb hja hkb
  | begins _ hcalls =>
    have hover := hturns (begins_of_longer hstep (by simp [hcalls]))
    have hlast : ∀ {i : Nat} {call : Call}, l'.calls[i]? = some call → call.rank ≠ 0 →
        i = l.calls.length := by
      intro i call hi hrank
      rw [hcalls] at hi
      rcases Nat.lt_or_ge i l.calls.length with hlt | hge
      · rw [List.getElem?_append_left hlt] at hi
        exact absurd (hover i call hi) hrank
      · have hle := (List.getElem?_eq_some_iff.1 hi).1
        simp only [List.length_append, List.length_singleton] at hle
        omega
    exact (hlast ha hja).trans (hlast hb hkb).symm
  | turn hm hc hcalls hnext =>
    have hbusy : ∀ {i : Nat} {call : Call}, l'.calls[i]? = some call → call.rank ≠ 0 →
        ∃ old, l.calls[i]? = some old ∧ old.rank ≠ 0 := by
      intro i call hi hrank
      rw [hcalls] at hi
      rcases getElem?_turned hi with ⟨-, hsame⟩ | ⟨rfl, rfl⟩
      · exact ⟨call, hsame, hrank⟩
      · exact ⟨_, hc, Nat.ne_of_gt (Nat.zero_lt_of_lt hnext.rank_lt)⟩
    obtain ⟨a', ha', hra⟩ := hbusy ha hja
    obtain ⟨b', hb', hrb⟩ := hbusy hb hkb
    exact h j k a' b' ha' hb' hra hrb

/-- A call whose turn it is was under way. -/
lemma busy_of_call? (hstep : l.Step m l') (hm : m.call? = some n) :
    ∃ call, l.calls[n]? = some call ∧ call.rank ≠ 0 := by
  cases turns_of_step hstep with
  | aside hnone | begins hnone => exact absurd (hnone.symm.trans hm) (by simp)
  | turn hcall hc _ hnext =>
    cases hcall.symm.trans hm
    exact ⟨_, hc, Nat.ne_of_gt (Nat.zero_lt_of_lt hnext.rank_lt)⟩

/-- A call that came further had its turn. -/
lemma call?_of_lower {old new : Call} (hstep : l.Step m l') (hc : l.calls[n]? = some old)
    (hc' : l'.calls[n]? = some new) (hlower : new.rank < old.rank) : m.call? = some n := by
  have hne : l'.calls[n]? ≠ l.calls[n]? := by
    rw [hc, hc', Ne, Option.some.injEq]
    rintro rfl
    exact lt_irrefl _ hlower
  cases turns_of_step hstep with
  | aside _ hcalls => exact absurd (by rw [hcalls]) hne
  | begins _ hcalls =>
    rw [hcalls, List.getElem?_append_left (List.getElem?_eq_some_iff.1 hc).1] at hne
    exact absurd rfl hne
  | @turn k _ _ hm _ hcalls =>
    by_cases hk : k = n
    · exact hk ▸ hm
    · rw [hcalls, List.getElem?_set_ne hk] at hne
      exact absurd rfl hne

/-- A call whose turn it is not stays where it is. -/
lemma getElem?_kept {call : Call} (hstep : l.Step m l') (hc : l.calls[n]? = some call)
    (hm : m.call? ≠ some n) : l'.calls[n]? = some call := by
  cases becomes_of_step hstep n with
  | stays _ hsame => exact hsame.trans hc
  | begins _ hnone => exact absurd (hnone.symm.trans hc) (by simp)
  | turns hold hnew hnext => exact absurd (call?_of_lower hstep hold hnew hnext.rank_lt) hm

/-- What happens while no start and no stop has its turn. -/
structure Undisturbed (l : Life) (m : Move) (l' : Life) : Prop where
  phase : l'.phase = l.phase
  running : l'.running = true → l.running = true
  aside : m.call? = none → l'.documents = l.documents ∧ l'.calls = l.calls
  reporter : ∀ k, m.call? = some k → m.reporter? = some k

/-- **Where only calls about documents are under way**, the phase stays, and the mark that the
server is running is taken back at most. -/
lemma undisturbed_of_step (hstep : l.Step m l') (hbegins : m.begins = false)
    (hdocument : ∀ k, m.call? = some k → ∃ s, l.calls[k]? = some (.document s)) :
    l.Undisturbed m l' := by
  have hnot : ∀ {k : Nat} {call : Call}, m.call? = some k → l.calls[k]? = some call →
      ∃ s, call = .document s := by
    intro k call hm hc
    obtain ⟨s, hs⟩ := hdocument k hm
    exact ⟨s, Option.some.inj (hc.symm.trans hs)⟩
  cases hstep with
  | other hother =>
    refine ⟨rfl, id, fun _ => ⟨rfl, rfl⟩, fun k hm => ?_⟩
    rw [call?_of_other hother] at hm
    cases hm
  | exit | record => exact ⟨rfl, id, fun _ => ⟨rfl, rfl⟩, nofun⟩
  | report => exact ⟨rfl, nofun, fun _ => ⟨rfl, rfl⟩, nofun⟩
  | callStart | callStop | callDocument => exact absurd hbegins (by simp [Move.begins])
  | document _ hc hm =>
    refine ⟨rfl, id, fun hnone => ?_, fun k hk => ?_⟩
    · rw [call?_of_reporter hm] at hnone
      cases hnone
    · exact hm.trans ((call?_of_reporter hm).symm.trans hk)
  | discard _ hc _ hm | collapse hc _ hm =>
    obtain ⟨s, hs⟩ := hnot (call?_of_initializer hm) hc
    cases hs
  | finishShutdown hc hm =>
    rcases hm with rfl | rfl
    all_goals
      obtain ⟨s, hs⟩ := hnot rfl hc
      cases hs
  | lockForStart hc | refuseStarted hc | refuseStopped hc | refrain hc | misplaced _ hc
  | unlaunched _ hc | launch _ hc | answer hc | installHandlers hc | sendInitialize _ hc
  | finishInitialize hc | abortStart hc | finishDiscard hc | markRunning hc | checkAlive hc
  | finishStart hc | cancelStart hc | lockForStop hc | rest hc | stopWatching hc | sendShutdown hc
  | flush _ hc | close hc | checkProcess hc | leave hc | stopProcess hc | miss hc | awaitExit hc =>
    obtain ⟨s, hs⟩ := hnot rfl hc
    cases hs

lemma begins_of_call? (hm : m.call? = some n) : m.begins = false := by
  cases m with
  | callStart | callStop | callDocument => cases hm
  | _ => rfl

/-- The move of a call about a document is one of three. -/
lemma move_of_document {s : DocumentStage} (hstep : l.Step m l') (hm : m.call? = some n)
    (hc : l.calls[n]? = some (.document s)) :
    m = .filterDocument n ∨ m = .checkRunning n ∨ m = .sendDocument n := by
  have hreporter := (undisturbed_of_step hstep (begins_of_call? hm) fun k hk => by
    cases hm.symm.trans hk
    exact ⟨s, hc⟩).reporter n hm
  cases m with
  | filterDocument | checkRunning | sendDocument => simpa [Move.reporter?] using hreporter
  | _ => cases hreporter

/-- A connection that runs stops running when a stop takes the lock. -/
lemma Sound.lockForStop_of_running (h : l.Sound) (hstep : l.Step m l') (hwas : l.phase = .running)
    (hnow : l'.phase ≠ .running) : ∃ k, m = .lockForStop k := by
  have hidle : ∀ {k : Nat} {s : StartStage}, l.calls[k]? = some (.start s) → s.isInside = true →
      False := by
    intro k s hc hs
    exact absurd (hwas.symm.trans (h.start hc hs).2.1) (by simp)
  cases hstep with
  | lockForStop | rest => exact ⟨_, rfl⟩
  | finishStart => exact absurd rfl hnow
  | refrain hc | misplaced _ hc | unlaunched _ hc | finishDiscard hc => exact (hidle hc rfl).elim
  | collapse hc hs => exact (hidle hc (isInside_of_isUnderWay hs)).elim
  | abortStart hc hs =>
    rcases hs with hs | ⟨e, rfl⟩
    · exact (hidle hc (isInside_of_isUnderWay hs)).elim
    · exact (hidle hc rfl).elim
  | _ => exact absurd hwas hnow

end Life

/-! ## What stands -/

/-- The move tells a caller that the document was opened. -/
def Opens (url : Url) (x : Connection × Move) : Prop :=
  ∃ n language version text, x.2 = .sendDocument n
    ∧ x.1.calls[n]? = some (.document (.passed (.opened url language version text)))
    ∧ (x.1.move x.2).result? n = some (.ok (some true))

/-- With the move nobody asks to stop the connection or to close the document. -/
def Spares (url : Url) (x : Connection × Move) : Prop :=
  x.2 ≠ .callStop ∧ x.2 ≠ .callDocument (.closed url)

/-- A caller was told that the document was opened, and since then nobody has asked to stop the
connection or to close the document. -/
def Stands (past : List (Connection × Move)) (url : Url) : Prop :=
  Since (Opens url) (Spares url) past

/-- The call is about to close the document, or all of them. -/
def Call.closes (url : Url) : Call → Prop
  | .stop .called | .stop .waiting => True
  | .document (.asked (.closed url')) => url' = url
  | _ => False

/-- The document is just being closed. -/
def Life.Closes (l : Life) (url : Url) : Prop := ∃ call ∈ l.calls, call.closes url

lemma Call.rank_ne_zero_of_closes {call : Call} (h : call.closes url) : call.rank ≠ 0 := by
  rcases call with s | s | s <;> cases s <;> first | exact h.elim | simp [Call.rank,
    StopStage.rank, DocumentStage.rank]

section Closes

variable {l l' : Life} {old new : Call}

lemma exists_mem_set {calls : List Call} {P : Call → Prop} (hc : calls[n]? = some old)
    (hsame : P old ↔ P new) : (∃ call ∈ calls.set n new, P call) ↔ ∃ call ∈ calls, P call := by
  constructor
  · rintro ⟨call, hmem, hcall⟩
    obtain ⟨k, hk⟩ := List.mem_iff_getElem?.1 hmem
    rcases Life.getElem?_turned hk with ⟨-, hk⟩ | ⟨-, rfl⟩
    · exact ⟨call, List.mem_of_getElem? hk, hcall⟩
    · exact ⟨old, List.mem_of_getElem? hc, hsame.2 hcall⟩
  · rintro ⟨call, hmem, hcall⟩
    obtain ⟨k, hk⟩ := List.mem_iff_getElem?.1 hmem
    have hn := (List.getElem?_eq_some_iff.1 hc).1
    by_cases hkn : k = n
    · subst hkn
      cases hk.symm.trans hc
      exact ⟨new, List.mem_of_getElem? (List.getElem?_set_self hn), hsame.1 hcall⟩
    · exact ⟨call, List.mem_of_getElem? ((List.getElem?_set_ne (Ne.symm hkn)).trans hk), hcall⟩

/-- **Any other move** leaves the documents as they are, and what is being closed, too. -/
lemma Life.closes_kept (hstep : l.Step m l') (hbegins : m.begins = false)
    (hreporter : m.reporter? = none) (hlocks : ∀ k, m ≠ .lockForStop k) :
    l'.documents = l.documents ∧ ∀ url, l'.Closes url ↔ l.Closes url := by
  cases hstep with
  | other | exit | record | report => exact ⟨rfl, fun url => Iff.rfl⟩
  | callStart | callStop | callDocument => exact absurd hbegins (by simp [Move.begins])
  | document _ _ hm => exact absurd (hreporter.symm.trans hm) (by simp)
  | lockForStop | rest => exact absurd rfl (hlocks _)
  | discard _ hc hs | collapse hc hs | abortStart hc hs =>
    exact ⟨rfl, fun url => exists_mem_set hc Iff.rfl⟩
  | sendShutdown hc _ hs =>
    rcases hs with rfl | ⟨id, rfl⟩ <;> exact ⟨rfl, fun url => exists_mem_set hc Iff.rfl⟩
  | lockForStart hc | refuseStarted hc | refuseStopped hc | refrain hc | misplaced _ hc
  | unlaunched _ hc | launch _ hc | answer hc | installHandlers hc | sendInitialize _ hc
  | finishInitialize hc | finishDiscard hc | markRunning hc | checkAlive hc | finishStart hc
  | cancelStart hc | stopWatching hc | finishShutdown hc | flush _ hc | close hc | checkProcess hc
  | leave hc | stopProcess hc | miss hc | awaitExit hc =>
    exact ⟨rfl, fun url => exists_mem_set hc Iff.rfl⟩

end Closes

/-! ## Histories in which callers take turns -/

/-- How a connection stands whose callers took turns. -/
structure Orderly (past : List (Connection × Move)) (c : Connection) : Prop where
  lone : c.life.Lone
  passing : ∀ (n : Nat) r, c.calls[n]? = some (.document (.passed r)) → c.phase = .running
  bare : c.phase ≠ .running → c.documents = []
  stands : ∀ url, Stands past url ↔ url ∈ c.documents ∧ ¬ c.life.Closes url

lemma orderly_new (config : Config) (home : Path) (processId : Nat) :
    Orderly [] (new config home processId) where
  lone j k a b ha := by simp [life, new] at ha
  passing n r hc := by simp [new] at hc
  bare _ := rfl
  stands url := iff_of_false not_since_nil (by simp [new])

lemma move_eq (h : c.move? m = some d) : c.move m = d := by
  rw [move, h]
  rfl

lemma spares_of_begins (hm : m.begins = false) : Spares url (c, m) := by
  constructor <;> rintro rfl <;> cases hm

/-- Only what is told opens a document, and only a caller who begins lets one fall. -/
lemma stands_concat (hsends : ∀ n, m ≠ .sendDocument n) (hbegins : m.begins = false) :
    Stands (past ++ [(c, m)]) url ↔ Stands past url := by
  rw [Stands, since_append, and_iff_left (spares_of_begins hbegins)]
  refine or_iff_right ?_
  rintro ⟨n, _, _, _, rfl, -⟩
  exact hsends n rfl

lemma mem_remaining {r : Report} :
    url ∈ c.remaining r ↔ url ∈ c.documents ∧ r ≠ .closed url := by
  cases r with
  | closed url' =>
    rw [remaining, List.mem_filter, bne_iff_ne, Ne, Ne, Report.closed.injEq]
    exact and_congr_right fun _ => ne_comm
  | _ => simp [remaining]

lemma mem_grown {r : Report} : url ∈ c.grown r ↔
    url ∈ c.documents ∨ ∃ language version text, r = .opened url language version text := by
  cases r with
  | opened url' =>
    by_cases hopen : url' ∈ c.documents
    · simp only [grown, isOpen, List.contains_eq_mem, hopen, decide_true, if_true]
      refine ⟨.inl, ?_⟩
      rintro (hmem | ⟨_, _, _, hsame⟩)
      · exact hmem
      · cases hsame
        exact hopen
    · simp [grown, isOpen, hopen, eq_comm (a := url)]
  | _ => simp [grown]

lemma closes_asked {r : Report} :
    Call.closes url (.document (.asked r)) ↔ r = .closed url := by
  cases r <;> simp [Call.closes]

section Step

variable (h : Orderly past c)

include h

/-- Where a call is under way, nothing is being closed but by what becomes of that call. -/
lemma Orderly.closes_turn {old new : Call} (hc : c.calls[n]? = some old) (hrank : old.rank ≠ 0)
    (hcalls : d.calls = c.calls.set n new) : d.life.Closes url ↔ new.closes url := by
  rw [Life.Closes, show d.life.calls = c.calls.set n new from hcalls]
  constructor
  · rintro ⟨call, hmem, hcloses⟩
    obtain ⟨k, hk⟩ := List.mem_iff_getElem?.1 hmem
    rcases Life.getElem?_turned hk with ⟨hne, hk⟩ | ⟨-, rfl⟩
    · exact absurd (h.lone k n call old hk hc (Call.rank_ne_zero_of_closes hcloses) hrank) hne
    · exact hcloses
  · exact fun hcloses => ⟨new, List.mem_of_getElem?
      (List.getElem?_set_self (List.getElem?_eq_some_iff.1 hc).1), hcloses⟩

lemma Orderly.closes_iff {call : Call} (hc : c.calls[n]? = some call) (hrank : call.rank ≠ 0) :
    c.life.Closes url ↔ call.closes url := by
  obtain ⟨hn, hsame⟩ := List.getElem?_eq_some_iff.1 hc
  exact h.closes_turn hc hrank (hsame ▸ (List.set_getElem_self hn).symm)

/-- A call that is past its first move closes nothing more. -/
lemma Orderly.not_closes {old : Call} {s : DocumentStage} (hc : c.calls[n]? = some old)
    (hrank : old.rank ≠ 0) (hs : ∀ r, s ≠ .asked r)
    (hcalls : d.calls = c.calls.set n (.document s)) : ¬ d.life.Closes url := by
  rw [h.closes_turn hc hrank hcalls]
  cases s with
  | asked r => exact absurd rfl (hs r)
  | _ => exact id

lemma Orderly.stands_filterDocument (hm : c.move? (.filterDocument n) = some d) :
    Stands (past ++ [(c, .filterDocument n)]) url ↔ url ∈ d.documents ∧ ¬ d.life.Closes url := by
  obtain ⟨r, hc, hcases⟩ := filterDocument_cases hm
  have hrank : (Call.document (.asked r)).rank ≠ 0 := by simp [Call.rank, DocumentStage.rank]
  rw [stands_concat (m := .filterDocument n) (by simp) rfl, h.stands, h.closes_iff hc hrank,
    closes_asked]
  obtain ⟨hignored, rfl⟩ | ⟨-, rfl⟩ := hcases
  · refine and_congr_right fun hmem => iff_of_true ?_ (h.not_closes hc hrank (by simp) rfl)
    rintro rfl
    simp [admits, isOpen, Report.url, hmem] at hignored
  · exact mem_remaining.symm.trans (and_iff_left (h.not_closes hc hrank (by simp) rfl)).symm

lemma Orderly.stands_checkRunning (hm : c.move? (.checkRunning n) = some d) :
    Stands (past ++ [(c, .checkRunning n)]) url ↔ url ∈ d.documents ∧ ¬ d.life.Closes url := by
  obtain ⟨r, hc, hcases⟩ := checkRunning_cases hm
  have hrank : (Call.document (.known r)).rank ≠ 0 := by simp [Call.rank, DocumentStage.rank]
  have hbefore : ¬ c.life.Closes url := (h.closes_iff hc hrank).not.2 id
  rw [stands_concat (m := .checkRunning n) (by simp) rfl, h.stands, and_iff_left hbefore]
  obtain ⟨-, -, rfl⟩ | ⟨-, -, rfl⟩ | ⟨-, rfl⟩ := hcases
  all_goals exact (and_iff_left (h.not_closes hc hrank (by simp) rfl)).symm

lemma Orderly.stands_sendDocument (hm : c.move? (.sendDocument n) = some d) :
    Stands (past ++ [(c, .sendDocument n)]) url ↔ url ∈ d.documents ∧ ¬ d.life.Closes url := by
  obtain ⟨r, hc, hcases⟩ := sendDocument_cases hm
  have hrank : (Call.document (.passed r)).rank ≠ 0 := by simp [Call.rank, DocumentStage.rank]
  have hopens : Opens url (c, .sendDocument n) ↔
      (∃ language version text, r = .opened url language version text)
        ∧ d.result? n = some (.ok (some true)) := by
    constructor
    · rintro ⟨k, language, version, text, hk, hk', hresult⟩
      cases hk
      cases hc.symm.trans hk'
      exact ⟨⟨language, version, text, rfl⟩, move_eq hm ▸ hresult⟩
    · rintro ⟨⟨language, version, text, rfl⟩, hresult⟩
      exact ⟨n, language, version, text, rfl, hc, (move_eq hm).symm ▸ hresult⟩
  have hresult : ∀ result, d.calls = c.calls.set n (.document (.done result)) →
      d.result? n = some (result.map some) := by
    intro result hcalls
    rw [result?, hcalls, List.getElem?_set_self (List.getElem?_eq_some_iff.1 hc).1]
  have hbefore : ¬ c.life.Closes url := (h.closes_iff hc hrank).not.2 id
  rw [Stands, since_append, hopens, and_iff_left (spares_of_begins rfl), ← Stands, h.stands,
    and_iff_left hbefore]
  obtain ⟨e, -, hdocuments, hcalls⟩ | ⟨params, -, -, hdocuments, hcalls⟩ := hcases
  · rw [hresult _ hcalls, hdocuments, and_iff_left (h.not_closes hc hrank (by simp) hcalls)]
    refine or_iff_right ?_
    rintro ⟨-, hsame⟩
    cases hsame
  · rw [hresult _ hcalls, hdocuments, and_iff_left (h.not_closes hc hrank (by simp) hcalls),
      mem_grown, or_comm]
    exact or_congr_right (and_iff_left rfl)

lemma Orderly.stands_lockForStop (hm : c.move? (.lockForStop n) = some d) :
    Stands (past ++ [(c, .lockForStop n)]) url ↔ url ∈ d.documents ∧ ¬ d.life.Closes url := by
  have hc : c.calls[n]? = some (.stop .waiting) := by
    rw [move?, lockForStop] at hm
    split at hm
    · assumption
    · cases hm
  have hnone : d.documents = [] := Life.documents_lockForStop (step_of_move? hm)
  have hcloses : c.life.Closes url :=
    (h.closes_iff hc (by simp [Call.rank, StopStage.rank])).2 trivial
  rw [stands_concat (m := .lockForStop n) (by simp) rfl, h.stands, hnone]
  exact iff_of_false (fun hstands => hstands.2 hcloses) (by simp)

/-- A caller who begins may close something, and opens nothing. -/
lemma Orderly.stands_begin {new : Call} (hm : c.move? m = some d)
    (hcalls : d.calls = c.calls ++ [new])
    (hdocuments : d.documents = c.documents) (hsends : ∀ k, m ≠ .sendDocument k)
    (hspares : new.closes url ↔ ¬ Spares url (c, m)) :
    Stands (past ++ [(c, m)]) url ↔ url ∈ d.documents ∧ ¬ d.life.Closes url := by
  have hopens : ¬ Opens url (c, m) := by
    rintro ⟨k, _, _, _, rfl, -⟩
    exact hsends k rfl
  have hcloses : d.life.Closes url ↔ c.life.Closes url ∨ new.closes url := by
    rw [Life.Closes, show d.life.calls = c.calls ++ [new] from hcalls]
    simp [Life.Closes, life, or_and_right, exists_or]
  rw [Stands, since_append, or_iff_right hopens, ← Stands, h.stands, hdocuments, hcloses, hspares,
    not_or, not_not, and_assoc]

/-- **What is open stands**, whatever the next move is. -/
lemma Orderly.stands_step (hm : c.move? m = some d) :
    Stands (past ++ [(c, m)]) url ↔ url ∈ d.documents ∧ ¬ d.life.Closes url := by
  have hother : m.begins = false → m.reporter? = none → (∀ k, m ≠ .lockForStop k) →
      (∀ k, m ≠ .sendDocument k) →
      (Stands (past ++ [(c, m)]) url ↔ url ∈ d.documents ∧ ¬ d.life.Closes url) := by
    intro hbegins hreporter hlocks hsends
    obtain ⟨hdocuments, hcloses⟩ := Life.closes_kept (step_of_move? hm) hbegins hreporter hlocks
    rw [stands_concat hsends hbegins, h.stands, hcloses,
      show d.documents = c.documents from hdocuments]
  cases m with
  | callStart =>
    cases hm
    exact h.stands_begin (m := .callStart) rfl rfl rfl (by simp)
      (iff_of_false id (by simp [Spares]))
  | callStop =>
    cases hm
    exact h.stands_begin (m := .callStop) rfl rfl rfl (by simp)
      (iff_of_true trivial (by simp [Spares]))
  | callDocument r =>
    cases hm
    exact h.stands_begin (m := .callDocument r) rfl rfl rfl (by simp)
      (closes_asked.trans (by simp [Spares]))
  | filterDocument n => exact h.stands_filterDocument hm
  | checkRunning n => exact h.stands_checkRunning hm
  | sendDocument n => exact h.stands_sendDocument hm
  | lockForStop n => exact h.stands_lockForStop hm
  | _ => exact hother rfl rfl (by simp) (by simp)

/-- **While a call about a document is under way**, only its own moves and those beside the calls
are made. -/
lemma Orderly.undisturbed {s : DocumentStage} (hm : c.move? m = some d)
    (hturns : m.begins = true → ∀ (k : Nat) call, c.calls[k]? = some call → call.rank = 0)
    (hc : c.calls[n]? = some (.document s)) (hs : s.rank ≠ 0) :
    c.life.Undisturbed m d.life ∧ ∀ k, m.call? = some k → k = n := by
  have hstep := step_of_move? hm
  have hbegins : m.begins = false := by
    by_contra hbegins
    exact hs (hturns (by simpa using hbegins) n _ hc)
  have hown : ∀ k, m.call? = some k → k = n := by
    intro k hk
    obtain ⟨call, hcall, hrank⟩ := Life.busy_of_call? hstep hk
    exact h.lone k n call _ hcall hc hrank hs
  refine ⟨Life.undisturbed_of_step hstep hbegins fun k hk => ?_, hown⟩
  obtain rfl := hown k hk
  exact ⟨s, hc⟩

/-- A call that has passed finds the connection running still. -/
lemma Orderly.passing_step {r : Report} (hm : c.move? m = some d)
    (hturns : m.begins = true → ∀ (k : Nat) call, c.calls[k]? = some call → call.rank = 0)
    (hpassed : d.calls[n]? = some (.document (.passed r))) : d.phase = .running := by
  have hstep := step_of_move? hm
  rcases Life.becomes_of_step hstep n with ⟨-, hsame⟩ | ⟨-, -, hnew, hbegins⟩ | ⟨hc, hnew, hnext⟩
  · have hbefore : c.calls[n]? = some (.document (.passed r)) := hsame.symm.trans hpassed
    exact (h.undisturbed hm hturns hbefore (by simp [DocumentStage.rank])).1.phase.trans
      (h.passing n r hbefore)
  · cases hnew.symm.trans hpassed
    obtain ⟨r', hr'⟩ := hbegins
    cases hr'
  · cases hnew.symm.trans hpassed
    rename_i old
    cases old with
    | document s =>
      have hcall := Life.call?_of_lower hstep hc hnew hnext.rank_lt
      have hput : ∀ {call : Call}, (c.put n call).calls[n]? = some (.document (.passed r)) →
          call = .document (.passed r) :=
        fun hput => ((Life.getElem?_turned hput).resolve_left fun hne => hne.1 rfl).2.symm
      rcases Life.move_of_document hstep hcall hc with rfl | rfl | rfl
      · obtain ⟨r', -, ⟨-, rfl⟩ | ⟨-, rfl⟩⟩ := filterDocument_cases hm <;> cases hput hpassed
      · obtain ⟨r', -, ⟨hrunning, -, rfl⟩ | ⟨-, -, rfl⟩ | ⟨-, rfl⟩⟩ := checkRunning_cases hm
        · exact hrunning
        · cases hput hpassed
        · cases hput hpassed
      · obtain ⟨r', -, ⟨e, -, -, hcalls⟩ | ⟨_, -, -, -, hcalls⟩⟩ := sendDocument_cases hm
        all_goals
          rw [hcalls] at hpassed
          cases hput hpassed
    | _ => exact hnext.elim

/-- A connection that does not run has no documents. -/
lemma Orderly.bare_step (hsound : c.life.Sound) (hm : c.move? m = some d)
    (hphase : d.phase ≠ .running) : d.documents = [] := by
  have hstep := step_of_move? hm
  by_cases hsends : ∃ k, m = .sendDocument k
  · -- what is told was let pass, and so the connection runs
    obtain ⟨k, rfl⟩ := hsends
    obtain ⟨r, hc, -⟩ := sendDocument_cases hm
    have hkept := (h.undisturbed hm nofun hc (by simp [DocumentStage.rank])).1.phase
    exact absurd (hkept.trans (h.passing k r hc)) hphase
  · by_cases hnone : c.documents = []
    · exact Life.documents_kept hstep (fun k hk => hsends ⟨k, hk⟩) hnone
    · have hrunning : c.phase = .running := by
        by_contra hnot
        exact hnone (h.bare hnot)
      obtain ⟨k, rfl⟩ := hsound.lockForStop_of_running hstep hrunning hphase
      exact Life.documents_lockForStop hstep

end Step

lemma reachable_of_history (h : History move? b past c) : Reachable b c := by
  induction h with
  | start => exact .refl
  | step _ next ih => exact .step _ ih next

/-- **Callers who take turns** find what they have opened. -/
theorem orderly_of_history {config : Config} {home : Path} {processId : Nat}
    (h : History move? (new config home processId) past c) (hturns : Sequential past) :
    Orderly past c := by
  induction h with
  | start => exact orderly_new config home processId
  | @step past c d m run next ih =>
    have horderly := ih fun x hx => hturns x (List.mem_append_left _ hx)
    have hover : m.begins = true → ∀ (k : Nat) call, c.calls[k]? = some call → call.rank = 0 :=
      fun hbegins k call hc => hturns.rank_eq_zero
        (List.mem_append_right _ (List.mem_singleton_self _)) hbegins hc
    exact
      { lone := horderly.lone.step (step_of_move? next) hover
        passing := fun n r hc => horderly.passing_step next hover hc
        bare := fun hphase => horderly.bare_step (reachable_of_history run).sound next hphase
        stands := fun url => horderly.stands_step next }

end ServerLink.Connection
