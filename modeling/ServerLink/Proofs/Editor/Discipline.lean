import Mathlib
import ServerLink.Proofs.Editor.Dialogue
import ServerLink.Proofs.Frame.Header
import ServerLink.Proofs.Rpc.Correlation

/-!
# The discipline of a client

A client is greeted, speaks of documents and files, and takes its leave; it may be greeted again.
Its caller asks for these in any order and may give up at any point, and the server answers,
refuses, answers with anything or not at all.

**`disciplined_of_history`**: whatever is done,

* a client is ready exactly if a handshake was done and no farewell or end was asked for since
  (`Greeted`);
* it speaks of documents and files only while it is ready, confirms a handshake exactly where the
  handshake succeeds, and lets the server exit only when the server was asked for the farewell, has
  answered without an error, and was told nothing in between (`Dismissed`);
* a call that is refused says nothing and changes nothing, and one that succeeds has said what it is
  for.

Each is a law of one step (`Acts.ready`, `Acts.notifies`, `Acts.refused`).  Only the farewell is a
matter of several steps: `parting_of_history` is what a client knows while it waits for the answer
to it.
-/

namespace ServerLink.Editor

open Rpc (Call Exchange Notification Outgoing Response Session)

/-- Whether a call is refused before anything comes of it: it comes too early, comes again, or is
about a document that has no identifier. -/
def isRefusal : EditorError → Bool
  | .notReady | .protocol _ | .badIdentifier _ => true
  | _ => false

/-- The error that a call comes to, if it fails. -/
def Reply.error? : Reply → Option EditorError
  | greeted (.error e) => some e
  | parted e | said e => e
  | _ => none

/-- What a call comes to that was made is no refusal. -/
lemma isRefusal_unanswered (method : String) (e : RpcError) :
    isRefusal (Client.unanswered method e) = false := by
  cases e <;> rfl

lemma isRefusal_of_rpc {o : Option RpcError} {e : EditorError} (h : o.map .rpc = some e) :
    isRefusal e = false := by
  obtain ⟨e, -, rfl⟩ := Option.map_eq_some_iff.1 h
  rfl

/-- Only of no changes there is nothing to say. -/
lemma Word.eq_files_of_params {w : Word} (h : w.params = .ok none) : w = .files [] := by
  cases w with
  | files events =>
    cases events with
    | nil => rfl
    | cons => exact absurd h (by simp [params])
  | opened url | changed url | saved url | closed url =>
    rw [params] at h
    cases hidentify : Client.identify url <;> simp [hidentify, Except.map] at h

/-- The confirmation and the exit are no words. -/
lemma Word.method_ne (w : Word) :
    w.method ≠ Client.readyMethod ∧ w.method ≠ Client.exitMethod := by
  cases w <;> simp [method, Client.readyMethod, Client.exitMethod]

namespace Dialogue

/-- A handshake was done, and no farewell or end was asked for since. -/
def Greeted (past : List (Dialogue × Step)) : Prop :=
  Since (fun x => ∃ v, x.1.reply? x.2 = some (.greeted (.ok v)))
    (fun x => x.2 ≠ .openFarewell ∧ x.2 ≠ .close) past

/-- The call with this id has asked for the farewell, and only replies were queued since. -/
def Asked (id : Nat) (past : List (Dialogue × Step)) : Prop :=
  Since (fun x => x.1.sends? x.2
      = some (.request ⟨Rpc.version, .int id, Client.farewellMethod, none⟩))
    (fun x => ∀ o ∈ x.1.sends? x.2, ∃ reply, o = .reply reply) past

/-- The server was asked for the farewell and has answered without an error, and nothing but replies
was queued since it was asked.  The answer was handed out, unless there were more calls than ids. -/
def Dismissed (past : List (Dialogue × Step)) (d : Dialogue) : Prop :=
  ∃ n call answer, d.business = .parting n ∧ d.exchange.calls[n]? = some call
    ∧ call.stage = .done (.woken (.answered answer)) ∧ answer.error = none
    ∧ Asked call.id past
    ∧ (d.exchange.calls.length < Decimal.limit64 → ∃ x ∈ past, x.2 = .session .dispatch
      ∧ x.1.exchange.session.Answers call.id answer)

/-- How a client behaves. -/
structure Disciplined (past : List (Dialogue × Step)) (d : Dialogue) : Prop where
  /-- It is ready if it was greeted and has not been asked to leave since. -/
  ready : d.client.ready = true ↔ Greeted past
  /-- What is said of documents and files is said by a client that is ready. -/
  words : ∀ x ∈ past, ∀ n w, x.1.sends? x.2 = some (.notification n) → n.method = Word.method w →
    x.1.client.ready = true
  /-- A call that is refused is over at once, queues nothing and leaves all as it was. -/
  refused : ∀ x ∈ past, ∀ e, (x.1.reply? x.2).bind Reply.error? = some e → isRefusal e = true →
    x.1.business = .idle ∧ x.1.sends? x.2 = none ∧ x.1.step? x.2 = some x.1
  /-- A handshake is confirmed exactly where it succeeds. -/
  confirmed : ∀ x ∈ past, (∃ n, x.1.sends? x.2 = some (.notification n)
    ∧ n.method = Client.readyMethod) ↔ ∃ v, x.1.reply? x.2 = some (.greeted (.ok v))
  /-- The server is told to exit when it has released the client. -/
  exits : ∀ early x late n, past = early ++ x :: late →
    x.1.sends? x.2 = some (.notification n) → n.method = Client.exitMethod → Dismissed early x.1
  /-- A client that is not ready has taken its leave already. -/
  unready : ∀ x ∈ past, x.2 = .openFarewell → x.1.client.ready = false →
    x.1.reply? x.2 = some (.parted none) ∧ x.1.sends? x.2 = none ∧ x.1.step? x.2 = some x.1
  /-- Without changes there is nothing to tell. -/
  nothing : ∀ x ∈ past, x.2 = .say (.files []) → x.1.sends? x.2 = none
  /-- Whatever else is said without an error is queued. -/
  said : ∀ x ∈ past, ∀ w, x.2 = .say w → x.1.reply? x.2 = some (.said none) → w ≠ .files [] →
    ∃ n, x.1.sends? x.2 = some (.notification n) ∧ n.method = w.method
  /-- A farewell that succeeds tells the server to exit. -/
  parted : ∀ x ∈ past, x.2 = .answer → x.1.reply? x.2 = some (.parted none) →
    ∃ n, x.1.sends? x.2 = some (.notification n) ∧ n.method = Client.exitMethod
  /-- The messages queued are those of a run of the exchange. -/
  relays : ∃ run, Exchange.Runs run d.exchange ∧ Rpc.queued run = queued past
  /-- The loop writes them, in order. -/
  writes : d.exchange.session.Writes ((queued past).map Outgoing.text)

variable {d d' : Dialogue} {st : Step} {below : Option Rpc.Step} {c : Client} {b : Business}
  {r : Option Reply} {e : EditorError} {n : Notification} {past : List (Dialogue × Step)}

/-! ## One step -/

/-- What makes a client ready, and what keeps it so. -/
lemma Acts.ready (h : Acts d st below c b r) : c.ready = true ↔
    (∃ v, r = some (.greeted (.ok v))) ∨ d.client.ready = true ∧ st ≠ .openFarewell
      ∧ st ≠ .close := by
  cases h with
  | openFarewell | close => simp [Client.openFarewell]
  | skip _ hready => simp [hready]
  | _ => simp

/-- **What a client tells its server**, and when. -/
lemma Acts.notifies (h : Acts d st below c b r)
    (hsends : below.bind d.exchange.sends = some (.notification n)) :
    (∃ w, n.method = Word.method w) ∧ d.client.ready = true
    ∨ n.method = Client.readyMethod ∧ (∃ v, r = some (.greeted (.ok v)))
    ∨ n.method = Client.exitMethod
      ∧ ∃ m v, d.business = .parting m ∧ d.result? .any m = some (.ok v) := by
  obtain ⟨below, rfl, hsends⟩ := Option.bind_eq_some_iff.1 hsends
  obtain ⟨hopen, rfl⟩ := Exchange.notify_of_sends hsends
  generalize hmethod : n.method = method at h
  generalize n.params = params at h
  cases h with
  | close _ hmark => exact absurd (hmark _ rfl) (by simp)
  | @say w _ _ hready => exact .inl ⟨⟨w, rfl⟩, hready⟩
  | unconfirmed _ _ hclosed => exact absurd (hopen.symm.trans hclosed) (by simp)
  | @greeted _ v => exact .inr (.inl ⟨rfl, v, rfl⟩)
  | @parted m v hbusiness hresult => exact .inr (.inr ⟨rfl, m, v, hbusiness, hresult⟩)

/-- A handshake that succeeds is confirmed. -/
lemma Acts.confirms {v : Json} (h : Acts d st below c b r) (hr : r = some (.greeted (.ok v))) :
    ∃ n, below.bind d.exchange.sends = some (.notification n) ∧ n.method = Client.readyMethod := by
  cases h with
  | greeted _ _ hopen =>
    exact ⟨_, by rw [Option.bind_some, Exchange.sends, if_pos hopen], rfl⟩
  | refuse | ungreeted | unconfirmed => exact absurd (Option.some.inj hr) (by simp)
  | _ => exact absurd hr (by simp)

/-- What the queue takes without an error is queued. -/
lemma sends_of_notify {e : Exchange} {method : String} {params : Option Json}
    (h : (e.session.notify method params).2.map EditorError.rpc = none) :
    e.sends (.notify method params) = some (.notification ⟨Rpc.version, method, params⟩) := by
  rcases e.session.notify_cases method params with ⟨-, hnote⟩ | ⟨hunsent, -⟩
  · exact hnote
  · rw [hunsent] at h
    exact absurd h (by simp)

lemma Acts.tells {w : Word} (h : Acts d (.say w) below c b r) (hr : r = some (.said none))
    (hw : w ≠ .files []) :
    ∃ n, below.bind d.exchange.sends = some (.notification n) ∧ n.method = w.method := by
  cases h with
  | unready | unnamed => exact absurd hr (by simp)
  | nothing _ _ hparams => exact absurd (Word.eq_files_of_params hparams) hw
  | say =>
    have hsent := Reply.said.inj (Option.some.inj hr)
    exact ⟨_, by rw [Option.bind_some, sends_of_notify hsent], rfl⟩

lemma Acts.exits (h : Acts d .answer below c b r) (hr : r = some (.parted none)) :
    ∃ n, below.bind d.exchange.sends = some (.notification n) ∧ n.method = Client.exitMethod := by
  cases h with
  | ungreeted | unconfirmed | greeted | unparted => exact absurd hr (by simp)
  | parted =>
    have hsent := Reply.parted.inj (Option.some.inj hr)
    exact ⟨_, by rw [Option.bind_some, sends_of_notify hsent], rfl⟩

/-- A farewell without a handshake is no farewell. -/
lemma Acts.skips (h : Acts d .openFarewell below c b r) (hready : d.client.ready = false) :
    r = some (.parted none) ∧ below = none ∧ c = d.client ∧ b = d.business := by
  cases h with
  | skip hidle => exact ⟨rfl, rfl, rfl, hidle.symm⟩
  | openFarewell _ hready' => exact absurd (hready.symm.trans hready') (by simp)

/-- Where there is nothing to tell, nothing is told. -/
lemma Acts.silent {w : Word} (h : Acts d (.say w) below c b r) (hw : w.params = .ok none) :
    below = none := by
  cases h with
  | unready | unnamed | nothing => rfl
  | say _ _ hparams => exact absurd (hw.symm.trans hparams) (by simp)

/-- **A refused call** is over at once and changes nothing. -/
lemma Acts.refused (h : Acts d st below c b r) (hr : r.bind Reply.error? = some e)
    (he : isRefusal e = true) :
    d.business = .idle ∧ below = none ∧ c = d.client ∧ b = .idle := by
  cases h with
  | refuse hidle | unready hidle | unnamed hidle => exact ⟨hidle, rfl, rfl, rfl⟩
  | skip | nothing | greeted | stop => exact absurd hr (by simp [Reply.error?])
  | openHandshake | openFarewell | close | turn | release | abandon | session =>
    exact absurd hr (by simp)
  | say | parted => exact absurd (isRefusal_of_rpc hr) (by simp [he])
  | ungreeted | unparted =>
    cases hr
    exact absurd he (by simp [isRefusal_unanswered])
  | unconfirmed =>
    cases hr
    exact absurd he (by simp [isRefusal])

/-- A step that takes none of the exchange and keeps the client and its business changes nothing. -/
lemma step?_of_quiet (h : d.step? st = some d') (hrelay : d.relay? st = none)
    (hclient : d'.client = d.client) (hbusiness : d'.business = d.business) :
    d.sends? st = none ∧ d.step? st = some d := by
  have hexchange := (leads_of_step? h).1
  rw [hrelay] at hexchange
  replace hexchange : d'.exchange = d.exchange := hexchange
  obtain ⟨c, e, b⟩ := d
  obtain ⟨c', e', b'⟩ := d'
  cases hclient
  cases hbusiness
  cases hexchange
  exact ⟨sends?_of_quiet hrelay, h⟩

/-! ## The farewell -/

lemma asked_append {id : Nat} : Asked id (past ++ [(d, st)]) ↔
    d.sends? st = some (.request ⟨Rpc.version, .int id, Client.farewellMethod, none⟩)
    ∨ Asked id past ∧ ∀ o ∈ d.sends? st, ∃ reply, o = .reply reply := since_append

/-- The call with the place `m` asks for the farewell and for nothing else, and once its request was
queued nothing but replies followed. -/
def Parting (past : List (Dialogue × Step)) (d : Dialogue) (m : Nat) : Prop :=
  ∃ call, d.exchange.calls[m]? = some call ∧ call.method = Client.farewellMethod
    ∧ call.params = .ok none ∧ (call.stage.isQueued = true → Asked call.id past)

lemma Parting.turn {m : Nat} {t : Rpc.Turn} (h : Parting past d m)
    (hrelay : d.relay? st = some (.turn m t))
    (hstep : Exchange.Steps d.exchange (.turn m t) d'.exchange) :
    Parting (past ++ [(d, st)]) d' m := by
  obtain ⟨call, hc, hmethod, hparams, hqueued⟩ := h
  have hin := (List.getElem?_eq_some_iff.1 hc).1
  have hsends : d.sends? st = call.sends d.exchange.session t := by
    rw [sends?, hrelay, Option.bind_some, Exchange.sends, hc, Option.bind_some]
  rw [Parting]
  generalize d'.exchange = f at hstep
  cases hstep with
  | @turn _ _ _ call' s hc' htakes =>
    cases hc.symm.trans hc'
    obtain ⟨hmethod', hparams'⟩ := htakes.asks_eq
    refine ⟨call', List.getElem?_set_self hin, hmethod'.trans hmethod, hparams'.trans hparams, ?_⟩
    rw [htakes.isQueued, htakes.id_eq, asked_append, hsends]
    intro hnext
    -- a turn of this caller queues its request or nothing
    cases ho : call.sends d.exchange.session t with
    | none => exact .inr ⟨hqueued (by simpa [ho] using hnext), by simp⟩
    | some o =>
      obtain ⟨params, hok, rfl⟩ := Call.request_of_sends ho
      cases hparams.symm.trans hok
      exact .inl (by rw [Call.request, hmethod])

lemma Parting.session {m : Nat} {move : Rpc.Move} (h : Parting past d m)
    (hrelay : d.relay? st = some (.session move))
    (hstep : Exchange.Steps d.exchange (.session move) d'.exchange) :
    Parting (past ++ [(d, st)]) d' m := by
  obtain ⟨call, hc, hmethod, hparams, hqueued⟩ := h
  rw [Parting]
  generalize d'.exchange = f at hstep
  cases hstep with
  | session hcallers hmove =>
    refine ⟨call, hc, hmethod, hparams, fun hcall => asked_append.2 (.inr ⟨hqueued hcall, ?_⟩)⟩
    intro o ho
    rw [sends?, hrelay, Option.bind_some] at ho
    exact Exchange.reply_of_sends ho

/-- **While a client waits for the answer to its farewell** only replies follow the request. -/
lemma parting_of_history (run : History step? (.start c) past d) {m : Nat}
    (hparting : d.business = .parting m) : Parting past d m := by
  induction run with
  | start => exact absurd hparting (by simp [Dialogue.start])
  | @step past d d' st run next ih =>
    obtain ⟨hfollows, hacts⟩ := leads_of_step? next
    rw [hparting] at hacts
    generalize hrelay : d.relay? st = below at hfollows hacts
    generalize d'.client = c' at hacts
    generalize d.reply? st = r at hacts
    generalize hb : Business.parting m = b at hacts
    -- only three kinds of steps leave a client waiting: the others end its business
    cases hacts with
    | openFarewell =>
      cases hb
      rw [Parting, ← Option.some.inj (show d.exchange.step? (.begin _ _) = _ from hfollows)]
      exact ⟨_, List.getElem?_concat_length, rfl, rfl, by simp [Rpc.Stage.isQueued]⟩
    | turn hcall =>
      rw [call?, ← hb] at hcall
      cases hcall
      exact (ih hb.symm).turn hrelay (Exchange.steps_of_step? hfollows)
    | session => exact (ih hb.symm).session hrelay (Exchange.steps_of_step? hfollows)
    | _ => exact absurd hb (by simp)

/-- Only the session hands a message out. -/
lemma Acts.eq_dispatch (h : Acts d st below c b r) (hbelow : below = some (.session .dispatch)) :
    st = .session .dispatch := by
  cases h with
  | close _ hmark => exact absurd (hmark _ hbelow) (by simp)
  | session =>
    cases hbelow
    rfl
  | _ => exact absurd hbelow (by simp)

lemma acts_of_mem {x : Dialogue × Step} (run : History step? (.start c) past d) (hx : x ∈ past) :
    ∃ d', x.1.step? x.2 = some d' ∧
      Acts x.1 x.2 (x.1.relay? x.2) d'.client d'.business (x.1.reply? x.2) := by
  obtain ⟨early, late, rfl⟩ := List.append_of_mem hx
  obtain ⟨-, d', next, -⟩ := run.before
  exact ⟨d', next, (leads_of_step? next).2⟩

/-- What a call was answered was handed out. -/
lemma exists_dispatch (run : History step? (.start c) past d)
    (hfew : d.exchange.calls.length < Decimal.limit64) {call : Call} {answer : Response}
    (hcall : call ∈ d.exchange.calls) (hstage : call.stage = .done (.woken (.answered answer))) :
    ∃ x ∈ past, x.2 = .session .dispatch ∧ x.1.exchange.session.Answers call.id answer := by
  obtain ⟨k, ⟨y, hy, hdispatch, hanswers⟩, -⟩ :=
    ((runs_of_history run).correlated hfew).answered call hcall answer hstage
  -- the first step of the exchange installs the handlers and is no step of the client
  rcases List.mem_cons.1 (List.mem_of_getElem? hy) with rfl | hin
  · exact absurd hdispatch (by simp)
  · obtain ⟨x, hx, hrelay⟩ := List.mem_filterMap.1 hin
    obtain ⟨below, hbelow, rfl⟩ := Option.map_eq_some_iff.1 hrelay
    obtain ⟨_, -, hacts⟩ := acts_of_mem run hx
    exact ⟨x, hx, hacts.eq_dispatch (hbelow.trans (congrArg some hdispatch)), hanswers⟩

/-- **A client that can read the answer to its farewell** was released by the server. -/
lemma dismissed_of_history (run : History step? (.start c) past d) {m : Nat} {v : Json}
    (hparting : d.business = .parting m) (hresult : d.result? .any m = some (.ok v)) :
    Dismissed past d := by
  obtain ⟨call, hc, hmethod, hparams, hqueued⟩ := parting_of_history run hparting
  rw [result?, hc, Option.bind_some, Call.result?] at hresult
  split at hresult
  · rename_i ending hstage
    cases ending with
    | woken w =>
      obtain ⟨answer, rfl, herror⟩ := Session.outcome_any (Option.some.inj hresult)
      exact ⟨m, call, answer, hparting, hc, hstage, herror, hqueued (by rw [hstage]; rfl),
        fun hfew => exists_dispatch run hfew (List.mem_of_getElem? hc) hstage⟩
    | _ => exact absurd (Option.some.inj hresult) (by simp [Rpc.Ending.result])
  · exact absurd hresult (by simp)

/-! ## Histories -/

lemma greeted_append : Greeted (past ++ [(d, st)]) ↔
    (∃ v, d.reply? st = some (.greeted (.ok v)))
    ∨ Greeted past ∧ st ≠ .openFarewell ∧ st ≠ .close := since_append

/-- **A client is ready** exactly if it was greeted and has not been asked to leave since. -/
lemma ready_iff_greeted {name : String} {version : Option String} {pid : Nat}
    (run : History step? (.start (.new name version pid)) past d) :
    d.client.ready = true ↔ Greeted past := by
  induction run with
  | start => exact iff_of_false (by simp [Dialogue.start, Client.new]) not_since_nil
  | step _ next ih => rw [(leads_of_step? next).2.ready, ih, greeted_append]

/-- **Every client keeps the discipline**, whatever its caller asks for and its server does. -/
theorem disciplined_of_history {name : String} {version : Option String} {pid : Nat}
    (run : History step? (.start (.new name version pid)) past d) : Disciplined past d := by
  constructor
  case ready => exact ready_iff_greeted run
  case words =>
    intro x hx n w hsends hmethod
    obtain ⟨_, -, hacts⟩ := acts_of_mem run hx
    -- a notification is a word of the caller, the confirmation of the handshake, or the order to
    -- exit
    rcases hacts.notifies hsends with ⟨-, hready⟩ | ⟨hother, -⟩ | ⟨hother, -⟩
    · exact hready
    · exact absurd (hmethod.symm.trans hother) w.method_ne.1
    · exact absurd (hmethod.symm.trans hother) w.method_ne.2
  case refused =>
    intro x hx e hr he
    obtain ⟨d', next, hacts⟩ := acts_of_mem run hx
    obtain ⟨hidle, hrelay, hclient, hbusiness⟩ := hacts.refused hr he
    exact ⟨hidle, step?_of_quiet next hrelay hclient (hbusiness.trans hidle.symm)⟩
  case confirmed =>
    intro x hx
    obtain ⟨_, -, hacts⟩ := acts_of_mem run hx
    refine ⟨fun ⟨n, hsends, hmethod⟩ => ?_, fun ⟨v, hr⟩ => ?_⟩
    · rcases hacts.notifies hsends with ⟨⟨w, hword⟩, -⟩ | ⟨-, hgreeted⟩ | ⟨hother, -⟩
      · exact absurd (hword.symm.trans hmethod) w.method_ne.1
      · exact hgreeted
      · exact absurd (hmethod.symm.trans hother) (by simp [Client.readyMethod, Client.exitMethod])
    · exact hacts.confirms hr
  case exits =>
    rintro early x late n rfl hsends hmethod
    obtain ⟨_, -, hacts⟩ := acts_of_mem run (List.mem_append_right early List.mem_cons_self)
    rcases hacts.notifies hsends with ⟨⟨w, hword⟩, -⟩ | ⟨hother, -⟩ | ⟨-, m, v, hparting, hresult⟩
    · exact absurd (hword.symm.trans hmethod) w.method_ne.2
    · exact absurd (hother.symm.trans hmethod) (by simp [Client.readyMethod, Client.exitMethod])
    · exact dismissed_of_history run.before.1 hparting hresult
  case unready =>
    rintro ⟨d, _⟩ hx rfl hready
    obtain ⟨d', next, hacts⟩ := acts_of_mem run hx
    obtain ⟨hr, hrelay, hclient, hbusiness⟩ := hacts.skips hready
    exact ⟨hr, step?_of_quiet next hrelay hclient hbusiness⟩
  case nothing =>
    rintro ⟨d, _⟩ hx rfl
    obtain ⟨_, -, hacts⟩ := acts_of_mem run hx
    exact sends?_of_quiet (hacts.silent rfl)
  case said =>
    rintro ⟨d, _⟩ hx w rfl hr hw
    obtain ⟨_, -, hacts⟩ := acts_of_mem run hx
    exact hacts.tells hr hw
  case parted =>
    rintro ⟨d, _⟩ hx rfl hr
    obtain ⟨_, -, hacts⟩ := acts_of_mem run hx
    exact hacts.exits hr
  case relays => exact ⟨relayed past, runs_of_history run, queued_relayed past⟩
  case writes =>
    rw [← queued_relayed]
    exact (runs_of_history run).writes

/-! ## A visit -/

def newcomer : Dialogue := .start (.new "editor" none 1)

/-- What the server answers to the handshake. -/
def consent : String :=
  "\x7b\"jsonrpc\":\"2.0\",\"id\":1,\"result\":\x7b\"capabilities\":\x7b\x7d\x7d\x7d"

/-- What the server answers to the farewell. -/
def release : String := "\x7b\"jsonrpc\":\"2.0\",\"id\":2,\"result\":null\x7d"

def notebook : Url := ⟨"file".toList, some [], "/a.toml".toList, none, none⟩

/-- A word that comes too early, and the request of the handshake. -/
def greeting : List Step :=
  [.say (.closed notebook), .openHandshake none, .turn .register, .turn .post,
    .session (.write none)]

/-- The handshake is over, a document is spoken of, and the farewell is asked for. -/
def working : List Step :=
  [.session .dispatch, .turn .finish, .answer, .say (.closed notebook), .openFarewell,
    .turn .register, .turn .post, .session (.write none), .session (.write none),
    .session (.write none)]

/-- The server may exit. -/
def leaving : List Step := [.session .dispatch, .turn .finish, .answer]

/-- A message has arrived and is in the hand of the loop. -/
def handing (d : Dialogue) (text : String) : Dialogue :=
  { d with exchange.session.phase := .handing text }

def waiting : Dialogue := (greeting.foldlM step? newcomer).getD newcomer

def parting : Dialogue := (working.foldlM step? (waiting.handing consent)).getD newcomer

def gone : Dialogue := (leaving.foldlM step? (parting.handing release)).getD newcomer

set_option maxRecDepth 8000 in
lemma run_greeting : greeting.foldlM step? newcomer = some waiting := rfl

set_option maxRecDepth 8000 in
lemma run_working : working.foldlM step? (waiting.handing consent) = some parting := rfl

set_option maxRecDepth 8000 in
lemma run_leaving : leaving.foldlM step? (parting.handing release) = some gone := rfl

lemma absorb_ofMessage {t : String} (hturn : d.exchange.session.turnsToStream = true)
    (hempty : d.exchange.session.decoder = .empty)
    (htext : (Utf8.ofString t).length ≤ Frame.limit)
    (hclean : Frame.complaint? (Utf8.ofString t) = none) :
    d.step? (.session (.absorb (Frame.ofMessage t))) = some (d.handing t) := by
  have habsorb : d.exchange.session.decoder.absorb (Frame.ofMessage t)
      = ⟨⟨[], [t]⟩, [], none⟩ := by
    rw [hempty]
    exact Frame.absorb_ofMessage htext hclean
  have hqueue : d.exchange.session.decoder.queue.isEmpty = true := by rw [hempty]; rfl
  obtain ⟨c, ⟨⟨decoder, _, _, _, _, _, _, _, _, _, _, _⟩, calls⟩, b⟩ := d
  cases hempty
  simp [step?, act?, handing, Exchange.step?, Session.move?, Session.takeUp?, Frame.Decoder.next?,
    Rpc.Move.isCallers, Session.showAll, habsorb, hturn, hqueue]

/-- The history of the visit. -/
def visit : List (Dialogue × Step) :=
  trail step? newcomer greeting
    ++ ((waiting, .session (.absorb (Frame.ofMessage consent)))
      :: trail step? (waiting.handing consent) working)
    ++ ((parting, .session (.absorb (Frame.ofMessage release)))
      :: trail step? (parting.handing release) leaving)

set_option maxRecDepth 8000 in
/-- A client that spoke too early, was greeted, spoke, and took its leave. -/
theorem disciplined_visit : History step? newcomer visit gone ∧ Disciplined visit gone
    ∧ (queued visit).filterMap Outgoing.method?
      = ["initialize", "initialized", "textDocument/didClose", "shutdown", "exit"] := by
  have hconsent := History.single (absorb_ofMessage (d := waiting) (t := consent) rfl rfl
    (by decide) rfl)
  have hrelease := History.single (absorb_ofMessage (d := parting) (t := release) rfl rfl
    (by decide) rfl)
  have run : History step? newcomer visit gone :=
    ((History.of_foldlM run_greeting).append
      (hconsent.append (History.of_foldlM run_working))).append
      (hrelease.append (History.of_foldlM run_leaving))
  exact ⟨run, disciplined_of_history run, rfl⟩

end Dialogue

end ServerLink.Editor
