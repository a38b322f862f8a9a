import Mathlib
import ServerLink.Editor.Dialogue
import ServerLink.Proofs.History
import ServerLink.Proofs.Rpc.Growth

/-!
# A client in dialogue, step by step

**Steps.**  `Dialogue.Acts` says what each step of a client needs and what comes of it, and
**`leads_of_act?`** that nothing else can happen.

**The exchange below.**  A step of the client is one step of the exchange of its session, or none.
`Dialogue.relay?` is that step, and `relayed past` are those of a history.  **`runs_of_history`**:
they are a run of the exchange, so what holds of every run holds of the exchange of a client.

**Messages.**  `Dialogue.sends?` is the message that a step queues, and `queued past` are those of a
history, in order.
-/

namespace ServerLink.Editor

open Rpc (Exchange Outgoing Session)

/-! ## Words -/

/-- The method under which a word is said. -/
def Word.method : Word → String
  | opened .. => "textDocument/didOpen"
  | changed .. => "textDocument/didChange"
  | saved .. => "textDocument/didSave"
  | closed .. => "textDocument/didClose"
  | files .. => "workspace/didChangeWatchedFiles"

/-- What is said, if there is anything to say. -/
def Word.params : Word → Except EditorError (Option Json)
  | opened url language version text => (Client.identify url).map fun uri =>
    some (.obj [("textDocument", .obj [("languageId", .str language), ("text", .str text),
      ("uri", .str uri), ("version", .int version)])])
  | changed url version text => (Client.identify url).map fun uri =>
    some (.obj [("contentChanges", .arr [.obj [("text", .str text)]]),
      ("textDocument", .obj [("uri", .str uri), ("version", .int version)])])
  | saved url text => (Client.identify url).map fun uri =>
    some (.obj (Json.optField "text" (text.map .str) ++
      [("textDocument", .obj [("uri", .str uri)])]))
  | closed url => (Client.identify url).map fun uri =>
    some (.obj [("textDocument", .obj [("uri", .str uri)])])
  | files events => .ok (if events.isEmpty then none else some (.obj [("changes", .arr events)]))

/-- What a client says of a word. -/
def Word.params? (w : Word) (c : Client) : Option Json :=
  if c.ready then w.params.toOption.join else none

section Words

variable {w : Word} {c : Client} {s : Session} {e : EditorError}

lemma Word.tell_of_unready (h : c.ready = false) : w.tell c s = (s, some .notReady) := by
  cases w <;> simp [tell, Client.didOpen, Client.didChange, Client.didSave, Client.didClose,
    Client.didChangeFiles, Client.tell, h]

lemma Word.tell_of_ready (h : c.ready = true) : w.tell c s =
    match w.params with
    | .error e => (s, some e)
    | .ok none => (s, none)
    | .ok (some params) =>
      ((s.notify w.method (some params)).1, (s.notify w.method (some params)).2.map .rpc) := by
  cases w with
  | files events =>
    cases events <;> simp [tell, Client.didChangeFiles, Client.tell, params, method, h]
  | opened url | changed url | saved url | closed url =>
    simp only [tell, Client.didOpen, Client.didChange, Client.didSave, Client.didClose, Client.tell,
      params, method, h]
    cases Client.identify url <;> rfl

/-- Only a document without an identifier cannot be spoken of. -/
lemma Word.params_error (h : w.params = .error e) : ∃ text, e = .badIdentifier text := by
  have identify : ∀ {url : Url} {f : String → Option Json},
      (Client.identify url).map f = .error e → ∃ text, e = .badIdentifier text := by
    intro url f h
    rw [Client.identify] at h
    split at h
    · exact absurd h (by simp [Except.map])
    · exact ⟨url.text, (Except.error.inj h).symm⟩
  cases w with
  | files => exact absurd h (by simp [params])
  | _ => exact identify h

end Words

namespace Dialogue

/-! ## The exchange below -/

/-- What the client was answered, if it was answered and can read it. -/
def answered? (d : Dialogue) (form : Shape) (n : Nat) : Option Json :=
  (d.result? form n).bind Except.toOption

/-- The step of the exchange that a step of the client takes, if it takes one. -/
def relay? (d : Dialogue) : Step → Option Rpc.Step
  | .openHandshake root => (d.client.openHandshake root).toOption.map fun params =>
    .begin Client.handshakeMethod (.ok (some params))
  | .openFarewell => if d.client.ready then some (.begin Client.farewellMethod (.ok none)) else none
  | .close => if d.exchange.session.isOpen then some (.session .mark) else none
  | .say w => (w.params? d.client).map fun params => .notify w.method (some params)
  | .turn t => d.call?.map fun n => .turn n t
  | .answer =>
    match d.business with
    | .greeting n => (d.answered? handshakeShape n).map fun _ =>
      .notify Client.readyMethod (some (.obj []))
    | .parting n => (d.answered? .any n).map fun _ => .notify Client.exitMethod none
    | _ => none
  | .release =>
    match d.business with
    | .closing => some (.session .cancelAll)
    | .leaving => some (.session .stop)
    | _ => none
  | .abandon => none
  | .session m => some (.session m)

/-- The exchange takes the step, or stays as it is without one. -/
def Follows (e : Exchange) (st : Option Rpc.Step) (f : Exchange) : Prop :=
  match st with
  | some st => e.step? st = some f
  | none => f = e

/-! ## Steps -/

/-- What a step needs: the step of the exchange that it takes, the client and its business after it,
and the reply to the call that comes to its end. -/
inductive Acts (d : Dialogue) :
    Step → Option Rpc.Step → Client → Business → Option Reply → Prop where
  | refuse {root : Option Url} {e : EditorError} (hidle : d.business = .idle)
      (hopen : d.client.openHandshake root = .error e) :
      Acts d (.openHandshake root) none d.client .idle (some (.greeted (.error e)))
  | openHandshake {root : Option Url} {params : Json} (hidle : d.business = .idle)
      (hopen : d.client.openHandshake root = .ok params) :
      Acts d (.openHandshake root) (some (.begin Client.handshakeMethod (.ok (some params))))
        d.client (.greeting d.exchange.calls.length) none
  | skip (hidle : d.business = .idle) (hready : d.client.ready = false) :
      Acts d .openFarewell none d.client .idle (some (.parted none))
  | openFarewell (hidle : d.business = .idle) (hready : d.client.ready = true) :
      Acts d .openFarewell (some (.begin Client.farewellMethod (.ok none)))
        d.client.openFarewell (.parting d.exchange.calls.length) none
  | close {st : Option Rpc.Step} (hidle : d.business = .idle)
      (hmark : ∀ s ∈ st, s = .session .mark) : Acts d .close st d.client.openFarewell .closing none
  | unready {w : Word} (hidle : d.business = .idle) (hready : d.client.ready = false) :
      Acts d (.say w) none d.client .idle (some (.said (some .notReady)))
  | unnamed {w : Word} {text : String} (hidle : d.business = .idle)
      (hready : d.client.ready = true) (hparams : w.params = .error (.badIdentifier text)) :
      Acts d (.say w) none d.client .idle (some (.said (some (.badIdentifier text))))
  | nothing {w : Word} (hidle : d.business = .idle) (hready : d.client.ready = true)
      (hparams : w.params = .ok none) : Acts d (.say w) none d.client .idle (some (.said none))
  | say {w : Word} {params : Json} (hidle : d.business = .idle)
      (hready : d.client.ready = true) (hparams : w.params = .ok (some params)) :
      Acts d (.say w) (some (.notify w.method (some params))) d.client .idle
        (some (.said ((d.exchange.session.notify w.method (some params)).2.map .rpc)))
  | turn {n : Nat} {t : Rpc.Turn} (hcall : d.call? = some n) :
      Acts d (.turn t) (some (.turn n t)) d.client d.business none
  | ungreeted {n : Nat} {e : RpcError} (hbusiness : d.business = .greeting n)
      (hresult : d.result? handshakeShape n = some (.error e)) :
      Acts d .answer none
        d.client .idle (some (.greeted (.error (Client.unanswered Client.handshakeMethod e))))
  | unconfirmed {n : Nat} {v : Json} (hbusiness : d.business = .greeting n)
      (hresult : d.result? handshakeShape n = some (.ok v))
      (hopen : d.exchange.session.isOpen = false) :
      Acts d .answer (some (.notify Client.readyMethod (some (.obj []))))
        d.client .idle (some (.greeted (.error (.rpc Session.unsent))))
  | greeted {n : Nat} {v : Json} (hbusiness : d.business = .greeting n)
      (hresult : d.result? handshakeShape n = some (.ok v))
      (hopen : d.exchange.session.isOpen = true) :
      Acts d .answer (some (.notify Client.readyMethod (some (.obj []))))
        { d.client with ready := true } .idle (some (.greeted (.ok v)))
  | unparted {n : Nat} {e : RpcError} (hbusiness : d.business = .parting n)
      (hresult : d.result? .any n = some (.error e)) :
      Acts d .answer none
        d.client .idle (some (.parted (some (Client.unanswered Client.farewellMethod e))))
  | parted {n : Nat} {v : Json} (hbusiness : d.business = .parting n)
      (hresult : d.result? .any n = some (.ok v)) :
      Acts d .answer (some (.notify Client.exitMethod none)) d.client .idle
        (some (.parted ((d.exchange.session.notify Client.exitMethod none).2.map .rpc)))
  | release (hbusiness : d.business = .closing) :
      Acts d .release (some (.session .cancelAll)) d.client .leaving none
  | stop (hbusiness : d.business = .leaving) :
      Acts d .release (some (.session .stop)) d.client .idle (some .closed)
  | abandon (hbusy : d.business ≠ .idle) : Acts d .abandon none d.client .idle none
  | session {m : Rpc.Move} : Acts d (.session m) (some (.session m)) d.client d.business none

variable {d d' : Dialogue} {st : Step} {r : Option Reply}

lemma isIdle_iff : d.isIdle = true ↔ d.business = .idle := by
  rw [isIdle]
  split
  · simp [*]
  · rename_i hbusy
    exact ⟨fun h => absurd h (by simp), fun h => absurd h hbusy⟩

/-- The step leads to the client `d'` with the reply `r`. -/
def Leads (d : Dialogue) (st : Step) (d' : Dialogue) (r : Option Reply) : Prop :=
  Follows d.exchange (d.relay? st) d'.exchange
    ∧ Acts d st (d.relay? st) d'.client d'.business r

lemma leads_openHandshake {root : Option Url} (hidle : d.business = .idle)
    (h : d.openHandshake root = (d', r)) : Leads d (.openHandshake root) d' r := by
  rw [openHandshake] at h
  rw [Leads, relay?]
  cases hopen : d.client.openHandshake root with
  | error e =>
    rw [hopen] at h
    cases h
    exact ⟨rfl, hidle ▸ .refuse hidle hopen⟩
  | ok params =>
    rw [hopen] at h
    cases h
    exact ⟨rfl, .openHandshake hidle hopen⟩

lemma leads_openFarewell (hidle : d.business = .idle) (h : d.openFarewell = (d', r)) :
    Leads d .openFarewell d' r := by
  rw [openFarewell] at h
  rw [Leads, relay?]
  cases hready : d.client.ready with
  | false =>
    rw [hready] at h
    cases h
    exact ⟨rfl, hidle ▸ .skip hidle hready⟩
  | true =>
    rw [hready] at h
    cases h
    exact ⟨rfl, .openFarewell hidle hready⟩

lemma leads_close (hidle : d.business = .idle) (h : d.close = (d', r)) : Leads d .close d' r := by
  cases h
  rw [Leads, relay?]
  cases hopen : d.exchange.session.isOpen with
  | false =>
    refine ⟨?_, .close hidle (by simp)⟩
    simp [Follows, Exchange.step, Exchange.step?, Session.move?, hopen]
  | true =>
    refine ⟨?_, .close hidle (by simp)⟩
    simp [Follows, Exchange.step, Exchange.step?, Session.move?, hopen, Rpc.Move.isCallers]

lemma leads_say {w : Word} (hidle : d.business = .idle) (h : d.say w = (d', r)) :
    Leads d (.say w) d' r := by
  rw [say, tell] at h
  rw [Leads, relay?, Word.params?]
  cases hready : d.client.ready with
  | false =>
    rw [Word.tell_of_unready hready] at h
    cases h
    exact ⟨rfl, hidle ▸ .unready hidle hready⟩
  | true =>
    rw [Word.tell_of_ready hready] at h
    cases hparams : w.params with
    | error e =>
      obtain ⟨text, rfl⟩ := Word.params_error hparams
      rw [hparams] at h
      cases h
      exact ⟨rfl, hidle ▸ .unnamed hidle hready hparams⟩
    | ok params =>
      rw [hparams] at h
      cases params with
      | none =>
        cases h
        exact ⟨rfl, hidle ▸ .nothing hidle hready hparams⟩
      | some params =>
        cases h
        exact ⟨rfl, hidle ▸ .say hidle hready hparams⟩

lemma leads_answer (h : d.answer? = some (d', r)) : Leads d .answer d' r := by
  rw [answer?] at h
  rw [Leads, relay?]
  cases hbusiness : d.business with
  | idle | closing | leaving =>
    rw [hbusiness] at h
    exact absurd h (by simp)
  | greeting n =>
    rw [hbusiness, Option.map_eq_some_iff] at h
    obtain ⟨answer, hresult, h⟩ := h
    dsimp only
    rw [answered?, hresult]
    cases answer with
    | error e =>
      cases h
      exact ⟨rfl, .ungreeted hbusiness hresult⟩
    | ok v =>
      -- the answer can be read, but the handshake succeeds only if its confirmation is queued
      cases hopen : d.exchange.session.isOpen with
      | false =>
        simp only [Client.closeHandshake, Session.notify, Session.move?, hopen, Bool.false_eq_true,
          if_false] at h
        cases h
        refine ⟨?_, .unconfirmed hbusiness hresult hopen⟩
        simp [Follows, Except.toOption, Exchange.step?, Session.notify, Session.move?, hopen]
      | true =>
        simp only [Client.closeHandshake, Session.notify, Session.move?, hopen, if_true] at h
        cases h
        refine ⟨?_, .greeted hbusiness hresult hopen⟩
        simp [Follows, Except.toOption, Exchange.step?, Session.notify, Session.move?, hopen]
  | parting n =>
    rw [hbusiness, Option.map_eq_some_iff] at h
    obtain ⟨answer, hresult, h⟩ := h
    dsimp only
    rw [answered?, hresult]
    cases answer with
    | error e =>
      cases h
      exact ⟨rfl, .unparted hbusiness hresult⟩
    | ok v =>
      cases h
      exact ⟨rfl, .parted hbusiness hresult⟩

lemma leads_release (h : d.release? = some (d', r)) : Leads d .release d' r := by
  rw [release?] at h
  rw [Leads, relay?]
  cases hbusiness : d.business with
  | idle | greeting | parting =>
    rw [hbusiness] at h
    exact absurd h (by simp)
  | closing =>
    rw [hbusiness] at h
    cases h
    exact ⟨rfl, .release hbusiness⟩
  | leaving =>
    rw [hbusiness] at h
    cases h
    exact ⟨rfl, .stop hbusiness⟩

/-- **What a step needs and what comes of it.** -/
theorem leads_of_act? (h : d.act? st = some (d', r)) : Leads d st d' r := by
  cases st with
  | openHandshake root =>
    rw [act?, Option.ite_none_right_eq_some, isIdle_iff] at h
    exact leads_openHandshake h.1 (Option.some.inj h.2)
  | openFarewell =>
    rw [act?, Option.ite_none_right_eq_some, isIdle_iff] at h
    exact leads_openFarewell h.1 (Option.some.inj h.2)
  | close =>
    rw [act?, Option.ite_none_right_eq_some, isIdle_iff] at h
    exact leads_close h.1 (Option.some.inj h.2)
  | say w =>
    rw [act?, Option.ite_none_right_eq_some, isIdle_iff] at h
    exact leads_say h.1 (Option.some.inj h.2)
  | turn t =>
    rw [act?, Option.map_eq_some_iff] at h
    obtain ⟨e, h, hr⟩ := h
    cases hr
    rw [turn?, Option.bind_eq_some_iff] at h
    obtain ⟨n, hcall, h⟩ := h
    rw [Option.map_eq_some_iff] at h
    obtain ⟨f, hstep, rfl⟩ := h
    rw [Leads, relay?, hcall]
    exact ⟨hstep, .turn hcall⟩
  | answer => exact leads_answer h
  | release => exact leads_release h
  | abandon =>
    rw [act?, Option.ite_none_left_eq_some, isIdle_iff] at h
    obtain ⟨hbusy, h⟩ := h
    cases h
    exact ⟨rfl, .abandon hbusy⟩
  | session m =>
    rw [act?, Option.map_eq_some_iff] at h
    obtain ⟨e, hstep, h⟩ := h
    cases h
    exact ⟨hstep, .session⟩

lemma leads_of_step? (h : d.step? st = some d') : Leads d st d' (d.reply? st) := by
  rw [step?, Option.map_eq_some_iff] at h
  obtain ⟨⟨_, r⟩, hact, rfl⟩ := h
  have hreply : d.reply? st = r := by rw [reply?, hact]; rfl
  rw [hreply]
  exact leads_of_act? hact

/-! ## Messages -/

/-- The message that a step queues. -/
def sends? (d : Dialogue) (st : Step) : Option Outgoing := (d.relay? st).bind d.exchange.sends

/-- The messages that were queued, in order. -/
def queued (past : List (Dialogue × Step)) : List Outgoing := past.filterMap fun x => x.1.sends? x.2

/-- The steps of the exchange that were taken, from its beginning on. -/
def relayed (past : List (Dialogue × Step)) : List (Exchange × Rpc.Step) :=
  (Exchange.start, .session (.install Client.handlers))
    :: past.filterMap fun x => (x.1.relay? x.2).map (x.1.exchange, ·)

variable {past : List (Dialogue × Step)} {c : Client}

lemma sends?_of_quiet (h : d.relay? st = none) : d.sends? st = none := by rw [sends?, h]; rfl

lemma relayed_append (past : List (Dialogue × Step)) (d : Dialogue) (st : Step) :
    relayed (past ++ [(d, st)]) = relayed past ++ ((d.relay? st).map (d.exchange, ·)).toList := by
  rw [relayed, List.filterMap_append, ← List.cons_append]
  cases h : d.relay? st <;> simp [relayed, h]

/-- **The steps of the exchange of a client** are a run. -/
theorem runs_of_history (run : History step? (.start c) past d) :
    Exchange.Runs (relayed past) d.exchange := by
  induction run with
  | start => exact .step .start rfl
  | @step past d d' st _ next ih =>
    rw [relayed_append]
    have hfollows := (leads_of_step? next).1
    cases hrelay : d.relay? st with
    | none =>
      rw [hrelay] at hfollows
      rw [show d'.exchange = d.exchange from hfollows]
      simpa using ih
    | some below =>
      rw [hrelay] at hfollows
      exact ih.step hfollows

/-- The messages of a client are those of its exchange. -/
lemma queued_relayed (past : List (Dialogue × Step)) : Rpc.queued (relayed past) = queued past := by
  rw [relayed, Rpc.queued, List.filterMap_cons_none rfl, List.filterMap_filterMap]
  refine List.filterMap_congr fun x _ => ?_
  rw [sends?]
  cases x.1.relay? x.2 <;> rfl

end Dialogue

end ServerLink.Editor
