import ServerLink.Proofs.Connection.Abides
import ServerLink.Proofs.Connection.Documents
import ServerLink.Proofs.Connection.Running

/-!
# What callers are told about documents

A call about a document makes three moves at most: it looks whether the document is one to forward,
whether the connection runs, and then it queues the notification.

**The answer.**  `Answer` lists the ways in which a call can come out, each with what the call has
queued.  `Followed` is the only thing it asks of what happened before: the selector accepts a
document that is opened, any other one stands.

**The course.**  `Course` follows the call `s.calls.length`, which began at `s`, through the moves
since; `Course.step` is its one step.

**All calls.**  **`forwards_of_history`**: where callers take turns, every call about a document
goes on until it is over, and comes out as `Answer` says.  After a stop no document is open.
-/

namespace ServerLink.Connection

open Process Rpc

variable {b c d s : Connection} {m : Move} {n : Nat} {r : Report} {config : Config} {home : Path}
  {processId : Nat} {past early late : List (Connection × Move)} {x : Connection × Move}

/-! ## The answer -/

/-- A member of what is said about the document itself. -/
def aboutDocument? (params : Json) (name : String) : Option Json :=
  (params.field? "textDocument").bind (·.field? name)

/-- The parameters carry all that the caller gave. -/
def Report.Conveyed (params : Json) : Report → Prop
  | .opened url language version text =>
    aboutDocument? params "uri" = some (.str url.text)
      ∧ aboutDocument? params "languageId" = some (.str language)
      ∧ aboutDocument? params "version" = some (.int version)
      ∧ aboutDocument? params "text" = some (.str text)
  | .changed url version text =>
    aboutDocument? params "uri" = some (.str url.text)
      ∧ aboutDocument? params "version" = some (.int version)
      ∧ params.field? "contentChanges" = some (.arr [.obj [("text", .str text)]])
  | .saved url text =>
    aboutDocument? params "uri" = some (.str url.text) ∧ params.field? "text" = text.map .str
  | .closed url => aboutDocument? params "uri" = some (.str url.text)

/-- A document is followed if the selector accepts it when it is opened, and if it stands when
anything else is said about it. -/
def Followed (config : Config) (early : List (Connection × Move)) : Report → Prop
  | .opened url language _ _ => config.selector.accepts url language = true
  | r => Stands early r.url

/-- The server has ended. -/
def HasEnded (c : Connection) : Prop := ∃ child ∈ c.process.children, child.ending.isSome = true

/-- The news of the server's end is through. -/
def EndTold (c : Connection) : Prop := ∃ child ∈ c.process.children, child.news = .told

/-- The messages that the moves of a call queued. -/
def saidBy (n : Nat) (late : List (Connection × Move)) : List Outgoing :=
  late.filterMap fun x => if x.2.call? = some n then x.1.message? x.2 else none

/-- How a call about a document comes out that began at `s`. -/
inductive Answer (config : Config) (early : List (Connection × Move)) (s : Connection) (r : Report)
    (late : List (Connection × Move)) : Except ConnectionError (Option Bool) → Prop where
  | ignored (hfollowed : ¬ Followed config early r) (hsaid : saidBy s.calls.length late = []) :
      Answer config early s r late (.ok (some false))
  | notStarted (hfollowed : Followed config early r) (hphase : s.phase ≠ .running)
      (hsaid : saidBy s.calls.length late = []) :
      Answer config early s r late (.error .notStarted)
  | serverExited (hfollowed : Followed config early r) (hphase : s.phase = .running)
      (hended : ∃ b, (b, .checkRunning s.calls.length) ∈ late ∧ b.HasEnded)
      (hsaid : saidBy s.calls.length late = []) :
      Answer config early s r late (.error .serverExited)
  | refused (e : EditorError) (hfollowed : Followed config early r) (hphase : s.phase = .running)
      (htold : ¬ s.EndTold) (hsaid : saidBy s.calls.length late = []) :
      Answer config early s r late (.error (.editor e))
  | queued (params : Json) (hfollowed : Followed config early r) (hphase : s.phase = .running)
      (htold : ¬ s.EndTold) (hconveyed : r.Conveyed params)
      (hsaid : saidBy s.calls.length late = [.notification ⟨version, r.method, some params⟩]) :
      Answer config early s r late (.ok (some true))

lemma conveyed_of_params {params : Json} (h : r.params = .ok params) : r.Conveyed params := by
  have htext : ∀ {url : Url} {f : String → Json}, (Editor.Client.identify url).map f = .ok params →
      params = f url.text := by
    intro url f hmap
    rcases identify_cases url with hidentify | ⟨e, hidentify⟩
    · rw [hidentify] at hmap
      exact (Except.ok.inj hmap).symm
    · rw [hidentify] at hmap
      cases hmap
  cases r with
  | saved url text =>
    rw [htext h]
    cases text <;> exact ⟨rfl, rfl⟩
  | closed url =>
    rw [htext h]
    rfl
  | _ =>
    rw [htext h]
    repeat' constructor

/-! ## What a call relies on -/

/-- While the connection runs and is marked as running, no end of its server was told. -/
lemma not_endTold (hminds : c.life.Minds) (hphase : c.phase = .running)
    (hrunning : c.running = true) :
    ¬ c.EndTold := by
  rintro ⟨child, hchild, htold⟩
  obtain ⟨only, hfollows, hmirrors⟩ := hminds.running hphase
  obtain rfl := List.mem_singleton.1 (hfollows.child ▸ hchild)
  exact absurd (hrunning.symm.trans (hmirrors.2 htold)) (by simp)

/-- Where the mark was taken back, the server has ended. -/
lemma hasEnded (hminds : c.life.Minds) (hphase : c.phase = .running)
    (hrunning : c.running = false) :
    c.HasEnded := by
  obtain ⟨child, hfollows, hmirrors⟩ := hminds.running hphase
  have hnews : child.news ≠ .awaited := fun hawaited =>
    absurd ((hmirrors.1 hawaited).symm.trans hrunning) (by simp)
  exact ⟨child, hfollows.child ▸ List.mem_singleton_self _, (hfollows.recorded hnews).2⟩

lemma Reachable.minds (h : Reachable (new config home processId) c) : c.life.Minds :=
  h.stays (P := Life.Minds) (sound_new config home processId)
    (fun hsound hminds hstep => hminds.step hsound hstep)
    ⟨by simp [life, new], by simp [life, new]⟩

lemma Reachable.spoken (h : Reachable (new config home processId) c) : c.life.Spoken :=
  h.stays (P := Life.Spoken) (sound_new config home processId)
    (fun _ hspoken hstep => hspoken.step hstep) (by simp [Life.Spoken, life, new])

lemma config_of_history (h : History move? (new config home processId) past c) :
    c.config = config :=
  History.invariant (P := fun c => c.config = config) rfl
    (fun hm hconfig => (config_of_move? hm).trans hconfig) h

lemma Call.rank_ne_zero_of_holds {call : Call} (h : call.holds = true) : call.rank ≠ 0 := by
  rcases call with t | t | t <;> cases t <;> first | (cases h; done) | exact nofun

lemma Call.rank_ne_zero_of_speaks {call : Call} (h : call.speaks = true) : call.rank ≠ 0 := by
  rcases call with t | t | t <;> cases t <;> first | (cases h; done) | exact nofun

/-- Before a call begins all others are over, and so what stands is what is open. -/
lemma followed_iff (h : Orderly early s) (hrest : ∀ (k : Nat) call, s.calls[k]? = some call →
    call.rank = 0) (hconfig : c.config = config) (hdocuments : c.documents = s.documents) :
    Followed config early r ↔ c.admits r = true := by
  have hopen : ∀ url, ¬ s.life.Closes url := by
    rintro url ⟨call, hmem, hcloses⟩
    obtain ⟨k, hk⟩ := List.mem_iff_getElem?.1 hmem
    exact Call.rank_ne_zero_of_closes hcloses (hrest k call hk)
  cases r with
  | opened url language version text => rw [Followed, admits, hconfig]
  | changed url | saved url | closed url =>
    show Stands early url ↔ c.documents.contains url = true
    rw [hdocuments, List.contains_iff_mem]
    exact (h.stands url).trans (and_iff_left (hopen url))

/-! ## The course of a call -/

lemma saidBy_own (h : x.2.call? = some n) :
    saidBy n (late ++ [x]) = saidBy n late ++ (x.1.message? x.2).toList := by
  rw [saidBy, List.filterMap_append, ← saidBy]
  cases hmessage : x.1.message? x.2 <;> simp [h, hmessage]

lemma saidBy_other (h : x.2.call? ≠ some n) : saidBy n (late ++ [x]) = saidBy n late := by
  rw [saidBy, List.filterMap_append, ← saidBy]
  simp [h]

/-- What other calls and the workers do is no matter for what a call came to. -/
lemma Answer.other {result : Except ConnectionError (Option Bool)}
    (h : Answer config early s r late result) (hx : x.2.call? ≠ some s.calls.length) :
    Answer config early s r (late ++ [x]) result := by
  cases h with
  | ignored hfollowed hsaid => exact .ignored hfollowed ((saidBy_other hx).trans hsaid)
  | notStarted hfollowed hphase hsaid =>
    exact .notStarted hfollowed hphase ((saidBy_other hx).trans hsaid)
  | serverExited hfollowed hphase hended hsaid =>
    obtain ⟨b, hb, hended⟩ := hended
    exact .serverExited hfollowed hphase ⟨b, List.mem_append_left _ hb, hended⟩
      ((saidBy_other hx).trans hsaid)
  | refused e hfollowed hphase htold hsaid =>
    exact .refused e hfollowed hphase htold ((saidBy_other hx).trans hsaid)
  | queued params hfollowed hphase htold hconveyed hsaid =>
    exact .queued params hfollowed hphase htold hconveyed ((saidBy_other hx).trans hsaid)

/-- How far a call about a document has come that began at `s`, and what it knows by then. -/
inductive Course (config : Config) (early : List (Connection × Move)) (s : Connection) (r : Report)
    (late : List (Connection × Move)) (c : Connection) : Prop where
  | asked (hc : c.calls[s.calls.length]? = some (.document (.asked r)))
      (hphase : c.phase = s.phase) (hrunning : c.running = true → s.running = true)
      (hdocuments : c.documents = s.documents) (hsaid : saidBy s.calls.length late = [])
  | known (hc : c.calls[s.calls.length]? = some (.document (.known r)))
      (hphase : c.phase = s.phase) (hrunning : c.running = true → s.running = true)
      (hfollowed : Followed config early r) (hsaid : saidBy s.calls.length late = [])
  | passed (hc : c.calls[s.calls.length]? = some (.document (.passed r)))
      (hfollowed : Followed config early r) (hphase : s.phase = .running) (htold : ¬ s.EndTold)
      (hsaid : saidBy s.calls.length late = [])
  | finished {result : Except ConnectionError Bool}
      (hc : c.calls[s.calls.length]? = some (.document (.done result)))
      (hanswer : Answer config early s r late (result.map some))

section Step

variable (h : Course config early s r late c)

include h

lemma Course.exists_stage : ∃ stage, c.calls[s.calls.length]? = some (.document stage) := by
  cases h with
  | asked hc | known hc | passed hc | finished hc => exact ⟨_, hc⟩

/-- What happens beside a call leaves it where it is. -/
lemma Course.beside (horderly : Orderly past c) (hm : c.move? m = some d)
    (hturns : m.begins = true → ∀ (k : Nat) call, c.calls[k]? = some call → call.rank = 0)
    (hcall : m.call? ≠ some s.calls.length) :
    Course config early s r (late ++ [(c, m)]) d := by
  have hstep := step_of_move? hm
  have hsaid := fun hsaid : saidBy s.calls.length late = [] =>
    (saidBy_other (x := (c, m)) hcall).trans hsaid
  have hsame : ∀ {stage : DocumentStage}, c.calls[s.calls.length]? = some (.document stage) →
      d.calls[s.calls.length]? = some (.document stage) :=
    fun hc => Life.getElem?_kept hstep hc hcall
  have hkept : ∀ {stage : DocumentStage}, c.calls[s.calls.length]? = some (.document stage) →
      stage.rank ≠ 0 →
      d.phase = c.phase ∧ (d.running = true → c.running = true) ∧ d.documents = c.documents := by
    intro stage hc hrank
    obtain ⟨hquiet, hown⟩ := horderly.undisturbed hm hturns hc hrank
    have hnone : m.call? = none := by
      cases hk : m.call? with
      | none => rfl
      | some k => exact absurd (hown k hk ▸ hk) hcall
    exact ⟨hquiet.phase, hquiet.running, (hquiet.aside hnone).1⟩
  cases h with
  | asked hc hphase hrunning hdocuments hnothing =>
    obtain ⟨hphase', hrunning', hdocuments'⟩ := hkept hc (by simp [DocumentStage.rank])
    exact .asked (hsame hc) (hphase'.trans hphase) (hrunning ∘ hrunning')
      (hdocuments'.trans hdocuments) (hsaid hnothing)
  | known hc hphase hrunning hfollowed hnothing =>
    obtain ⟨hphase', hrunning', -⟩ := hkept hc (by simp [DocumentStage.rank])
    exact .known (hsame hc) (hphase'.trans hphase) (hrunning ∘ hrunning') hfollowed (hsaid hnothing)
  | passed hc hfollowed hphase htold hnothing =>
    exact .passed (hsame hc) hfollowed hphase htold (hsaid hnothing)
  | finished hc hanswer => exact .finished (hsame hc) (hanswer.other hcall)

/-- A call looks whether its document is one to forward. -/
lemma Course.filterDocument
    (hfollowed : c.documents = s.documents → (Followed config early r ↔ c.admits r = true))
    (hm : c.move? (.filterDocument s.calls.length) = some d) :
    Course config early s r (late ++ [(c, Move.filterDocument s.calls.length)]) d := by
  obtain ⟨r', hc, hcases⟩ := filterDocument_cases hm
  cases h with
  | asked hc' hphase hrunning hdocuments hsaid =>
    cases hc.symm.trans hc'
    have hlength := (List.getElem?_eq_some_iff.1 hc).1
    have hnothing : saidBy s.calls.length (late ++ [(c, Move.filterDocument s.calls.length)])
        = [] := by
      rw [saidBy_own rfl, hsaid]
      rfl
    obtain ⟨hignored, rfl⟩ | ⟨hadmitted, rfl⟩ := hcases
    · refine .finished (List.getElem?_set_self hlength) (.ignored ?_ hnothing)
      rw [hfollowed hdocuments, hignored]
      nofun
    · exact .known (List.getElem?_set_self hlength) hphase hrunning
        ((hfollowed hdocuments).2 hadmitted)
        hnothing
  | known hc' | passed hc' | finished hc' => cases hc.symm.trans hc'

/-- A call looks whether the connection runs. -/
lemma Course.checkRunning (hminds : c.life.Minds) (hminds' : s.life.Minds)
    (hm : c.move? (.checkRunning s.calls.length) = some d) :
    Course config early s r (late ++ [(c, Move.checkRunning s.calls.length)]) d := by
  obtain ⟨r', hc, hcases⟩ := checkRunning_cases hm
  cases h with
  | known hc' hphase hrunning hfollowed hsaid =>
    cases hc.symm.trans hc'
    have hlength := (List.getElem?_eq_some_iff.1 hc).1
    have hnothing : saidBy s.calls.length (late ++ [(c, Move.checkRunning s.calls.length)])
        = [] := by
      rw [saidBy_own rfl, hsaid]
      rfl
    obtain ⟨hruns, hmarked, rfl⟩ | ⟨hruns, hunmarked, rfl⟩ | ⟨hnot, rfl⟩ := hcases
    · have hphase' : s.phase = .running := hphase.symm.trans hruns
      exact .passed (List.getElem?_set_self hlength) hfollowed hphase'
        (not_endTold hminds' hphase' (hrunning hmarked)) hnothing
    · refine .finished (List.getElem?_set_self hlength)
        (.serverExited hfollowed (hphase.symm.trans hruns) ⟨c, ?_, ?_⟩ hnothing)
      · exact List.mem_append_right _ (List.mem_singleton_self _)
      · exact hasEnded hminds hruns hunmarked
    · exact .finished (List.getElem?_set_self hlength)
        (.notStarted hfollowed (hphase ▸ hnot) hnothing)
  | asked hc' | passed hc' | finished hc' => cases hc.symm.trans hc'

/-- A call queues its notification. -/
lemma Course.sendDocument (hm : c.move? (.sendDocument s.calls.length) = some d) :
    Course config early s r (late ++ [(c, Move.sendDocument s.calls.length)]) d := by
  obtain ⟨r', hc, hcases⟩ := sendDocument_cases hm
  cases h with
  | passed hc' hfollowed hphase htold hsaid =>
    cases hc.symm.trans hc'
    have hlength := (List.getElem?_eq_some_iff.1 hc).1
    have hmessage : saidBy s.calls.length (late ++ [(c, Move.sendDocument s.calls.length)])
        = (c.message? (.sendDocument s.calls.length)).toList := by
      rw [saidBy_own rfl, hsaid, List.nil_append]
    have hdone : ∀ result, d.calls = c.calls.set s.calls.length (.document (.done result)) →
        d.calls[s.calls.length]? = some (.document (.done result)) := by
      intro result hcalls
      rw [hcalls, List.getElem?_set_self hlength]
    obtain ⟨e, hnone, -, hcalls⟩ | ⟨params, hparams, hsome, -, hcalls⟩ := hcases
    · refine .finished (hdone _ hcalls) (.refused e hfollowed hphase htold (hmessage.trans ?_))
      rw [hnone, Option.toList_none]
    · refine .finished (hdone _ hcalls) (.queued params hfollowed hphase htold
        (conveyed_of_params hparams) (hmessage.trans ?_))
      rw [hsome, Option.toList_some]
  | asked hc' | known hc' | finished hc' => cases hc.symm.trans hc'

/-- **Every move carries the course of a call on.** -/
lemma Course.step (horderly : Orderly past c) (hm : c.move? m = some d)
    (hturns : m.begins = true → ∀ (k : Nat) call, c.calls[k]? = some call → call.rank = 0)
    (hminds : c.life.Minds) (hminds' : s.life.Minds)
    (hfollowed : c.documents = s.documents → (Followed config early r ↔ c.admits r = true)) :
    Course config early s r (late ++ [(c, m)]) d := by
  by_cases hcall : m.call? = some s.calls.length
  · obtain ⟨stage, hc⟩ := h.exists_stage
    rcases Life.move_of_document (step_of_move? hm) hcall hc with rfl | rfl | rfl
    · exact h.filterDocument hfollowed hm
    · exact h.checkRunning hminds hminds' hm
    · exact h.sendDocument hm
  · exact h.beside horderly hm hturns hcall

/-- **A call that is not over goes on.** -/
lemma Course.goesOn (horderly : Orderly past c) (hsound : c.life.Sound) (hspoken : c.life.Spoken)
    (hopen : c.result? s.calls.length = none) :
    ∃ m, m.call? = some s.calls.length ∧ (c.move? m).isSome = true := by
  -- whoever held a lock would be under way, too
  have hfree : ∀ {stage : DocumentStage}, c.calls[s.calls.length]? = some (.document stage) →
      stage.rank ≠ 0 → c.holder = none ∧ c.speaker = none := by
    intro stage hc hrank
    have halone : ∀ {k : Nat} {call : Call}, c.calls[k]? = some call → call.rank ≠ 0 →
        call = .document stage := by
      intro k call hk hbusy
      obtain rfl := horderly.lone k s.calls.length call _ hk hc hbusy hrank
      exact Option.some.inj (hk.symm.trans hc)
    constructor
    · by_contra hheld
      obtain ⟨k, hk⟩ := Option.ne_none_iff_exists'.1 hheld
      obtain ⟨call, hcall, hholds⟩ := hsound.held k hk
      rw [halone hcall (Call.rank_ne_zero_of_holds hholds)] at hholds
      cases hholds
    · by_contra hheld
      obtain ⟨k, hk⟩ := Option.ne_none_iff_exists'.1 hheld
      obtain ⟨call, hcall, hspeaks⟩ := hspoken k hk
      rw [halone hcall (Call.rank_ne_zero_of_speaks hspeaks)] at hspeaks
      cases hspeaks
  obtain ⟨stage, hc⟩ := h.exists_stage
  have hrank : stage.rank ≠ 0 := fun hzero => by
    have hover := (isSome_result? hc).2 hzero
    rw [hopen] at hover
    cases hover
  obtain ⟨hholder, hspeaker⟩ := hfree hc hrank
  exact exists_move_of_document hc hopen hholder hspeaker

end Step

/-- A call makes no more moves than it has left. -/
lemma countP_turns_le {call : Call} (h : History move? b late c) (hb : b.calls[n]? = some call) :
    ∃ now, c.calls[n]? = some now ∧
      late.countP (fun x => x.2.call? = some n) + now.rank ≤ call.rank := by
  induction h with
  | start => exact ⟨call, hb, by simp⟩
  | @step late c d m run next ih =>
    obtain ⟨now, hc, hle⟩ := ih
    have hstep := step_of_move? next
    rcases Life.becomes_of_step hstep n with ⟨hother, hsame⟩ | ⟨-, hnone, -⟩ | ⟨hold, hnew, hnext⟩
    · exact ⟨now, hsame.trans hc, by simpa [List.countP_append, hother] using hle⟩
    · exact absurd (hnone.symm.trans hc) (by simp)
    · cases hold.symm.trans hc
      have hlower := hnext.rank_lt
      have hown := Life.call?_of_lower hstep hold hnew hlower
      refine ⟨_, hnew, ?_⟩
      simp only [List.countP_append, List.countP_singleton, hown, decide_true, if_true]
      omega

/-- What came after a call about a document was made. -/
lemma history_after_call (h : History move? s ((s, .callDocument r) :: late) c) :
    History move? { s with calls := s.calls ++ [.document (.asked r)] } late c := by
  rw [← List.nil_append ((s, _) :: late)] at h
  obtain ⟨-, u, hu, hlate⟩ := h.before
  cases hu
  exact hlate

/-- The course of a call from its beginning on. -/
lemma course_of_history (hearly : History move? (new config home processId) early s)
    (hlate : History move? { s with calls := s.calls ++ [.document (.asked r)] } late c)
    (hturns : Sequential (early ++ (s, .callDocument r) :: late)) :
    Course config early s r late c := by
  have hbefore : Sequential early := fun x hx => hturns x (List.mem_append_left _ hx)
  have hrest : ∀ (k : Nat) call, s.calls[k]? = some call → call.rank = 0 := fun k call hc =>
    hturns.rank_eq_zero (x := (s, .callDocument r)) (by simp) rfl hc
  induction hlate with
  | start => exact .asked (by simp) rfl id rfl rfl
  | @step late c d m run next ih =>
    have hsub : ∀ x ∈ early ++ (s, Move.callDocument r) :: late,
        x ∈ early ++ (s, Move.callDocument r) :: (late ++ [(c, m)]) := by
      intro x hx
      simp only [List.mem_append, List.mem_cons] at hx ⊢
      tauto
    have hnow : Sequential (early ++ (s, .callDocument r) :: late) :=
      fun x hx => hturns x (hsub x hx)
    have hrun : History move? (new config home processId)
        (early ++ (s, .callDocument r) :: late) c := by
      rw [← List.singleton_append, ← List.append_assoc]
      exact (hearly.step rfl).append run
    exact (ih hnow).step (orderly_of_history hrun hnow) next
      (fun hbegins k call hc => hturns.rank_eq_zero (x := (c, m)) (by simp) hbegins hc)
      (reachable_of_history hrun).minds (reachable_of_history hearly).minds
      (followed_iff (orderly_of_history hearly hbefore) hrest (config_of_history hrun))

/-- How callers fare who take turns. -/
structure Forwards (config : Config) (past : List (Connection × Move)) (c : Connection) : Prop where
  /-- A call about a document that is not over can go on. -/
  goesOn : ∀ early s r late, past = early ++ (s, Move.callDocument r) :: late →
    c.result? s.calls.length = none →
    ∃ m, m.call? = some s.calls.length ∧ (c.move? m).isSome = true
  /-- It is over after three moves at most. -/
  moves : ∀ early s r late, past = early ++ (s, Move.callDocument r) :: late →
    late.countP (fun x => x.2.call? = some s.calls.length) ≤ 3
  /-- Each of them queues what it says, and nothing else. -/
  queues : ∀ early s r late, past = early ++ (s, Move.callDocument r) :: late →
    ∀ x ∈ late, x.2.call? = some s.calls.length →
      x.1.Speaks (x.1.message? x.2) (x.1.move x.2).session
  /-- What the caller is told. -/
  answers : ∀ early s r late, past = early ++ (s, Move.callDocument r) :: late →
    ∀ result, c.result? s.calls.length = some result → Answer config early s r late result
  /-- After a stop no document is open. -/
  forgotten : ∀ (k : Nat) result, c.calls[k]? = some (.stop (.done result)) → c.documents = []

/-- **Callers who take turns** are told what became of their documents. -/
theorem forwards_of_history (h : History move? (new config home processId) past c)
    (hturns : Sequential past) : Forwards config past c := by
  have horderly := orderly_of_history h hturns
  have hreach := reachable_of_history h
  -- the history of a call begins where it was made
  have hsplit : ∀ {early s r late}, past = early ++ (s, Move.callDocument r) :: late →
      History move? (new config home processId) early s
      ∧ History move? { s with calls := s.calls ++ [.document (.asked r)] } late c := by
    rintro early s r late rfl
    obtain ⟨hearly, u, hu, hlate⟩ := h.before
    cases hu
    exact ⟨hearly, hlate⟩
  have hcourse : ∀ {early s r late}, past = early ++ (s, Move.callDocument r) :: late →
      Course config early s r late c := fun hpast =>
    course_of_history (hsplit hpast).1 (hsplit hpast).2 (hpast ▸ hturns)
  constructor
  case goesOn =>
    intro early s r late hpast hopen
    exact (hcourse hpast).goesOn horderly hreach.sound hreach.spoken hopen
  case moves =>
    intro early s r late hpast
    obtain ⟨now, -, hle⟩ := countP_turns_le (hsplit hpast).2 List.getElem?_concat_length
    exact (Nat.le_add_right _ _).trans hle
  case queues =>
    intro early s r late hpast x hx _
    obtain ⟨before, after, rfl⟩ := List.append_of_mem hx
    obtain ⟨-, u, hu, -⟩ := (hsplit hpast).2.before
    rw [move_eq hu]
    exact (utters_of_move? hu).speaks
  case answers =>
    intro early s r late hpast result hresult
    cases hcourse hpast with
    | finished hc hanswer =>
      rw [result?, hc] at hresult
      exact Option.some.inj hresult ▸ hanswer
    | asked hc | known hc | passed hc =>
      rw [result?, hc] at hresult
      cases hresult
  case forgotten =>
    intro k result hc
    refine horderly.bare ?_
    rw [show c.phase = .stopped from (hreach.sound.fits k _ hc).1.2.1]
    simp

/-! ## A document that is opened and changed -/

lemma history_of_moves? {moves : List Move} (h : b.moves? moves = some c) :
    History move? b (trail move? b moves) c := by
  refine .of_foldlM ?_
  induction moves generalizing b with
  | nil => exact h
  | cons m rest ih =>
    obtain ⟨d, hd, hrest⟩ := Option.bind_eq_some_iff.1 h
    exact Option.bind_eq_some_iff.2 ⟨d, hd, ih hrest⟩

/-- A caller who begins where all calls are over, and the moves until the next one. -/
lemma sequential_trail {rest : List Move}
    (hover : ∀ n < b.calls.length, (b.result? n).isSome = true)
    (hrest : ∀ later ∈ rest, later.begins = false) : Sequential (trail move? b (m :: rest)) := by
  intro x hx hbegins
  rcases List.mem_cons.1 hx with rfl | hx
  · exact hover
  · cases hm : b.move? m with
    | none =>
      rw [hm] at hx
      cases hx
    | some d =>
      rw [hm] at hx
      exact absurd ((hrest _ (History.mem_of_mem_trail hx)).symm.trans hbegins) (by simp)

/-- The handshake is closed. -/
def settling : List Move :=
  [.loop .dispatch, .finishInitialize 0 (.ok ⟨Utf8.ofString "/w"⟩), .markRunning 0, .checkAlive 0,
    .finishStart 0]

/-- A document of the workspace is opened, and then it has a new text. -/
def openingSheet : List Move :=
  [.callDocument (.opened sheet "toml" 1 "a = 1"), .filterDocument 1, .checkRunning 1,
    .sendDocument 1]

def changingSheet : List Move :=
  [.callDocument (.changed sheet 2 "a = 2"), .filterDocument 2, .checkRunning 2, .sendDocument 2]

def settled : Connection := (answered.moves? settling).getD workshop

def sheetOpened : Connection := (settled.moves? openingSheet).getD workshop

def sheetChanged : Connection := (sheetOpened.moves? changingSheet).getD workshop

/-- What happened until the document was opened. -/
def untilOpened : List (Connection × Move) :=
  trail move? workshop (opening ++ .loop (.absorb (Frame.ofMessage consent)) :: settling)
    ++ trail move? settled openingSheet

lemma moves?_of_isSome {moves : List Move} (h : (b.moves? moves).isSome = true)
    (other : Connection) :
    b.moves? moves = some ((b.moves? moves).getD other) := by
  obtain ⟨u, hu⟩ := Option.isSome_iff_exists.1 h
  rw [hu, Option.getD_some]

lemma moves_settling : answered.moves? settling = some settled :=
  moves?_of_isSome (by decide +kernel) _

lemma moves_openingSheet : settled.moves? openingSheet = some sheetOpened :=
  moves?_of_isSome (by decide +kernel) _

lemma moves_changingSheet : sheetOpened.moves? changingSheet = some sheetChanged :=
  moves?_of_isSome (by decide +kernel) _

lemma history_untilOpened : History move? workshop untilOpened sheetOpened := by
  refine (history_of_moves? ?_).append (history_of_moves? moves_openingSheet)
  rw [moves?_append, moves_opening, Option.bind_some, moves?, absorb_consent, Option.bind_some,
    moves_settling]

lemma sequential_sheet : Sequential (untilOpened ++ trail move? sheetOpened changingSheet) := by
  refine List.forall_mem_append.2 ⟨List.forall_mem_append.2 ⟨?_, ?_⟩, ?_⟩
  · exact sequential_trail (m := .callStart) nofun (by decide)
  · exact sequential_trail (by decide +kernel) (by decide)
  · exact sequential_trail (by decide +kernel) (by decide)

/-- The document is open when it is changed, and so its new text is queued. -/
theorem forwards_sheet : ∃ late params,
    History move? workshop
      (untilOpened ++ (sheetOpened, .callDocument (.changed sheet 2 "a = 2")) :: late) sheetChanged
    ∧ Sequential (untilOpened ++ (sheetOpened, .callDocument (.changed sheet 2 "a = 2")) :: late)
    ∧ Forwards workshop.config
      (untilOpened ++ (sheetOpened, .callDocument (.changed sheet 2 "a = 2")) :: late) sheetChanged
    ∧ Stands untilOpened sheet
    ∧ Report.Conveyed params (.changed sheet 2 "a = 2")
    ∧ saidBy 2 late = [.notification ⟨version, "textDocument/didChange", some params⟩] := by
  have hhistory := history_untilOpened.append (history_of_moves? moves_changingSheet)
  have hforwards := forwards_of_history hhistory sequential_sheet
  have hlength : sheetOpened.calls.length = 2 := by decide +kernel
  have hresult : sheetChanged.result? 2 = some (.ok (some true)) := rfl
  have hanswer := hforwards.answers untilOpened sheetOpened (.changed sheet 2 "a = 2") _ rfl _
    (hlength ▸ hresult)
  cases hanswer with
  | queued params hfollowed _ _ hconveyed hsaid =>
    exact ⟨_, params, hhistory, sequential_sheet, hforwards, hfollowed, hconveyed, hlength ▸ hsaid⟩

end ServerLink.Connection
