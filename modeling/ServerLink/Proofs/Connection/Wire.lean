import Mathlib
import ServerLink.Proofs.Connection.Farewell
import ServerLink.Proofs.Rpc.Growth

/-!
# What a connection says to its server

**Messages.**  `Connection.message? c m` is the message that a move queues, if it queues one: a
request or a notification of the connection itself, or the reply to a request of the server.  `said
c moves` are those of a run, in order.

**Moves.**  **`utters_of_move?`**: a move makes the session grow by its message and by nothing else,
and carries the conversation on in one of the ways that `Voices` lists.  Only `sendInitialize`,
`finishInitialize`, `sendShutdown`, `finishShutdown`, `sendDocument` and `forward` say anything of
their own.

**Runs.**  **`written_eq_sent`**: what was written to the server are the first of the messages said,
each as its text.
-/

namespace ServerLink.Connection

open Rpc

/-! ## Messages -/

/-- The method under which a report about a document is forwarded. -/
def Report.method : Report → String
  | opened .. => "textDocument/didOpen"
  | changed .. => "textDocument/didChange"
  | saved .. => "textDocument/didSave"
  | closed .. => "textDocument/didClose"

/-- What is said of the document. -/
def Report.params : Report → Except EditorError Json
  | opened url language version text => (Editor.Client.identify url).map fun uri =>
    .obj [("textDocument", .obj [("languageId", .str language), ("text", .str text),
      ("uri", .str uri), ("version", .int version)])]
  | changed url version text => (Editor.Client.identify url).map fun uri =>
    .obj [("contentChanges", .arr [.obj [("text", .str text)]]),
      ("textDocument", .obj [("uri", .str uri), ("version", .int version)])]
  | saved url text => (Editor.Client.identify url).map fun uri =>
    .obj (Json.optField "text" (text.map .str) ++ [("textDocument", .obj [("uri", .str uri)])])
  | closed url => (Editor.Client.identify url).map fun uri =>
    .obj [("textDocument", .obj [("uri", .str uri)])]

lemma identify_cases (url : Url) : Editor.Client.identify url = .ok url.text
    ∨ ∃ e, Editor.Client.identify url = .error e := by
  rw [Editor.Client.identify, Url.identifier?]
  cases Uri.isWellFormed url.chars with
  | true => exact .inl rfl
  | false => exact .inr ⟨_, rfl⟩

/-- The method under which changes of watched files are forwarded. -/
def filesMethod : String := "workspace/didChangeWatchedFiles"

/-- The methods of what is forwarded about documents and files. -/
def newsMethods : List String :=
  ["textDocument/didOpen", "textDocument/didChange", "textDocument/didSave",
    "textDocument/didClose", filesMethod]

/-- The message that a client which tells of something queues. -/
def tells (c : Connection) (method : String) (params : Except EditorError Json) : Option Outgoing :=
  if c.client.ready then params.toOption.bind fun p => c.session.notification? method (some p)
  else none

/-- What a caller that waits for an answer was answered, if it was answered and can read it. -/
def answer? (c : Connection) (form : Shape) (id : Nat) : Option Json :=
  (c.session.wake? id).bind fun wake => (Session.outcome form wake).toOption

/-- The message that a move queues. -/
def message? (c : Connection) : Move → Option Outgoing
  | .sendInitialize n =>
    match c.calls[n]? with
    | some (.start (.equipped root)) =>
      (c.client.openHandshake (some root)).toOption.bind fun params =>
      c.session.request? Editor.Client.handshakeMethod (some params)
    | _ => none
  | .finishInitialize n _ =>
    match c.calls[n]? with
    | some (.start (.initializing id)) => (c.answer? Editor.handshakeShape id).bind fun _ =>
      c.session.notification? Editor.Client.readyMethod (some (.obj []))
    | _ => none
  | .sendShutdown n =>
    match c.calls[n]? with
    | some (.stop .unwatched) =>
      if c.client.ready then c.session.request? Editor.Client.farewellMethod none else none
    | _ => none
  | .finishShutdown n =>
    match c.calls[n]? with
    | some (.stop (.shuttingDown id)) => (c.answer? .any id).bind fun _ =>
      c.session.notification? Editor.Client.exitMethod none
    | _ => none
  | .sendDocument n =>
    match c.calls[n]? with
    | some (.document (.passed r)) => c.tells r.method r.params
    | _ => none
  | .forward =>
    match c.forwarder with
    | .holding events =>
      if events.isEmpty then none else c.tells filesMethod (.ok (.obj [("changes", .arr events)]))
    | _ => none
  | .loop .dispatch =>
    match c.session.inHand? with
    | some (.request r) => some (.reply (c.session.replyTo r).1)
    | _ => none
  | _ => none

/-- The messages that a run queues, in order. -/
def said (c : Connection) : List Move → List Outgoing
  | [] => []
  | m :: rest => (c.message? m).toList ++ (c.move? m).elim [] (said · rest)

/-! ## What a move does to the conversation -/

/-- The session becomes one that has grown by the message. -/
def Speaks (c : Connection) (o : Option Outgoing) (s : Session) : Prop :=
  c.session.Grows (o.toList.map Outgoing.text) s

/-- The connection becomes one whose session has grown by nothing, with the same client. -/
def Rests (c d : Connection) : Prop := c.Speaks none d.session ∧ d.client = c.client

/-- How the move `m`, which makes `d` of `c`, carries the conversation on. -/
inductive Voices (c : Connection) : Move → Connection → Prop where
  | quiet {m : Move} {d : Connection} (hinit : ∀ n, m ≠ .sendInitialize n)
      (hshutdown : ∀ n, m ≠ .sendShutdown n)
      (hmessage : (c.message? m).bind Outgoing.method? = none)
      (hready : d.client.ready = c.client.ready) : Voices c m d
  | sendInitialize {n id : Nat} {root : Url} {params : Option Json} {d : Connection}
      (hc : c.calls[n]? = some (.start (.equipped root)))
      (hmessage : c.message? (.sendInitialize n)
        = some (.request ⟨version, .int id, Editor.Client.handshakeMethod, params⟩))
      (hready : d.client.ready = c.client.ready) : Voices c (.sendInitialize n) d
  | fail {n : Nat} {root : Url} {d : Connection}
      (hc : c.calls[n]? = some (.start (.equipped root)))
      (hmessage : c.message? (.sendInitialize n) = none)
      (hready : d.client.ready = c.client.ready)
      (hc' : ∀ id, d.calls[n]? ≠ some (.start (.initializing id))) : Voices c (.sendInitialize n) d
  | finishInitialize {n id : Nat} {watch : Except WatchError Path} {params : Option Json}
      {d : Connection} (hc : c.calls[n]? = some (.start (.initializing id)))
      (hmessage : c.message? (.finishInitialize n watch)
        = some (.notification ⟨version, Editor.Client.readyMethod, params⟩))
      (hready : d.client.ready = true) : Voices c (.finishInitialize n watch) d
  | news {m : Move} {method : String} {params : Option Json} {d : Connection}
      (hinit : ∀ n, m ≠ .sendInitialize n) (hshutdown : ∀ n, m ≠ .sendShutdown n)
      (hready : c.client.ready = true)
      (hmessage : c.message? m = some (.notification ⟨version, method, params⟩))
      (hnews : method ∈ newsMethods) (hready' : d.client.ready = true) : Voices c m d
  | sendShutdown {n id : Nat} {d : Connection} (hc : c.calls[n]? = some (.stop .unwatched))
      (hready : c.client.ready = true)
      (hmessage : c.message? (.sendShutdown n)
        = some (.request ⟨version, .int id, Editor.Client.farewellMethod, none⟩))
      (hready' : d.client.ready = false)
      (hc' : d.calls = c.calls.set n (.stop (.shuttingDown id))) :
      Voices c (.sendShutdown n) d
  | skip {n : Nat} {d : Connection} (hc : c.calls[n]? = some (.stop .unwatched))
      (hmessage : c.message? (.sendShutdown n) = none)
      (hready' : d.client.ready = false)
      (hc' : ∀ id, d.calls[n]? ≠ some (.stop (.shuttingDown id))) :
      Voices c (.sendShutdown n) d
  | finishShutdown {n id : Nat} {r : Response} {d : Connection}
      (hc : c.calls[n]? = some (.stop (.shuttingDown id)))
      (hwake : c.session.wake? id = some (.answered r)) (herror : r.error = none)
      (hmessage : c.message? (.finishShutdown n)
        = some (.notification ⟨version, Editor.Client.exitMethod, none⟩))
      (hready : d.client.ready = c.client.ready) : Voices c (.finishShutdown n) d

variable {c d : Connection} {m : Move} {o : Option Outgoing} {s : Session} {n : Nat}

lemma Speaks.quiet : c.Speaks none c.session := Session.Grows.refl

lemma Speaks.move (h : c.Speaks o s) {m : Rpc.Move} (hm : s.adds m = []) : c.Speaks o (s.move m) :=
  Session.Grows.move h hm

lemma speaks_call (c : Connection) (method : String) (params : Option Json) :
    c.Speaks (c.session.request? method params) (c.session.call method params).1 :=
  Session.Grows.refl.call method params

lemma speaks_notify (c : Connection) (method : String) (params : Option Json) :
    c.Speaks (c.session.notification? method params) (c.session.notify method params).1 :=
  Session.Grows.refl.notify method params

lemma Rests.refl : c.Rests c := ⟨.quiet, rfl⟩

lemma session_failStart (c : Connection) (n : Nat) (e : ConnectionError) :
    (c.failStart n e).session = c.session := by
  cases e <;> rfl

lemma client_failStart (c : Connection) (n : Nat) (e : ConnectionError) :
    (c.failStart n e).client = c.client := by
  cases e <;> rfl

/-- A start that fails says no more, and keeps the client. -/
lemma Speaks.discard (h : c.Speaks o d.session) (e : ConnectionError) :
    c.Speaks o (d.discard n e).session := by
  have hsession : (d.discard n e).session = d.session.move .stop := by
    rw [Connection.discard]
    split
    · rfl
    · rw [session_failStart]
      rfl
  rw [hsession]
  exact h.move rfl

lemma client_discard (c : Connection) (n : Nat) (e : ConnectionError) :
    (c.discard n e).client = c.client := by
  rw [discard]
  split
  · rfl
  · rw [client_failStart]
    rfl

lemma discard_not_initializing (c : Connection) (n : Nat) (e : ConnectionError) (id : Nat) :
    (c.discard n e).calls[n]? ≠ some (.start (.initializing id)) := by
  have hset : ∀ new : Call, new ≠ .start (.initializing id) →
      (c.calls.set n new)[n]? ≠ some (.start (.initializing id)) := by
    intro new hnew hget
    rw [List.getElem?_set_self (by simpa using (List.getElem?_eq_some_iff.1 hget).1)] at hget
    exact hnew (Option.some.inj hget)
  rw [discard]
  split
  · exact hset _ (by simp)
  · cases e <;> exact hset _ (by simp)

/-- A move adds to the session what it says and nothing else, and carries the conversation on. -/
structure Utters (c : Connection) (m : Move) (d : Connection) : Prop where
  speaks : c.Speaks (c.message? m) d.session
  voices : c.Voices m d

lemma Rests.utters (h : c.Rests d) (hmessage : c.message? m = none)
    (hinit : ∀ n, m ≠ .sendInitialize n) (hshutdown : ∀ n, m ≠ .sendShutdown n) : c.Utters m d :=
  ⟨hmessage ▸ h.1, .quiet hinit hshutdown (by rw [hmessage]; rfl) (by rw [h.2])⟩

/-! ## The handshake -/

lemma utters_sendInitialize (h : c.sendInitialize n = some d) : c.Utters (.sendInitialize n) d := by
  rw [sendInitialize] at h
  split at h
  · rename_i root hc
    rw [Option.some.injEq] at h
    subst h
    have hmessage : c.message? (.sendInitialize n)
        = (c.client.openHandshake (some root)).toOption.bind fun params =>
          c.session.request? Editor.Client.handshakeMethod (some params) := by
      rw [message?, hc]
    rw [openHandshake]
    cases hparams : c.client.openHandshake (some root) with
    | error e =>
      rw [hparams] at hmessage
      simp only [noteAt, hparams]
      exact ⟨hmessage ▸ Speaks.discard (d := c.noteAt _ _) .quiet _,
        .fail hc hmessage (by rw [client_discard]) (discard_not_initializing _ _ _)⟩
    | ok params =>
      rw [hparams] at hmessage
      replace hmessage : _ = c.session.request? Editor.Client.handshakeMethod (some params) :=
        hmessage
      have hspeaks := speaks_call c Editor.Client.handshakeMethod (some params)
      have hcases := c.session.call_cases Editor.Client.handshakeMethod (some params)
      rw [← hmessage] at hspeaks hcases
      simp only [noteAt, hparams]
      rcases hcall : c.session.call Editor.Client.handshakeMethod (some params) with ⟨s, r⟩
      rw [hcall] at hspeaks hcases
      obtain ⟨rfl, hrequest⟩ | ⟨rfl, hnone⟩ := hcases
      · exact ⟨hspeaks, .sendInitialize hc hrequest rfl⟩
      · exact ⟨Speaks.discard (d := { c.noteAt _ _ with session := s }) hspeaks _,
          .fail hc hnone (by rw [client_discard]) (discard_not_initializing _ _ _)⟩
  · exact absurd h (by simp)

lemma rests_failHandshake (h : c.Speaks none d.session) (hclient : d.client = c.client)
    (e : RpcError) (watch : Except WatchError Path) :
    c.Rests (d.closeHandshake n (.error e) watch) := by
  rw [closeHandshake, Editor.Client.closeHandshake]
  exact ⟨h.discard _, (client_discard _ _ _).trans hclient⟩

lemma utters_finishInitialize {watch : Except WatchError Path}
    (h : c.finishInitialize n watch = some d) :
    c.Utters (.finishInitialize n watch) d := by
  rw [finishInitialize] at h
  split at h
  · rename_i id hc
    split at h
    · exact absurd h (by simp)
    · obtain ⟨wake, hwake, rfl⟩ := Option.map_eq_some_iff.1 h
      have hmessage : c.message? (.finishInitialize n watch)
          = (Session.outcome Editor.handshakeShape wake).toOption.bind fun _ =>
            c.session.notification? Editor.Client.readyMethod (some (.obj [])) := by
        simp only [message?, hc, answer?, hwake, Option.bind_some]
      cases hanswer : Session.outcome Editor.handshakeShape wake with
      | error e =>
        rw [hanswer] at hmessage
        exact (rests_failHandshake .quiet rfl e watch).utters hmessage (by simp) (by simp)
      | ok result =>
        rw [hanswer] at hmessage
        replace hmessage : _ = c.session.notification? Editor.Client.readyMethod (some (.obj [])) :=
          hmessage
        have hspeaks := speaks_notify c Editor.Client.readyMethod (some (.obj []))
        have hcases := c.session.notify_cases Editor.Client.readyMethod (some (.obj []))
        rw [← hmessage] at hspeaks hcases
        simp only [closeHandshake, Editor.Client.closeHandshake]
        rcases hnotify : c.session.notify Editor.Client.readyMethod (some (.obj [])) with ⟨s, r⟩
        rw [hnotify] at hspeaks hcases
        obtain ⟨rfl, hnote⟩ | ⟨rfl, hnone⟩ := hcases
        · cases watch with
          | error e =>
            exact ⟨Speaks.discard (d := Connection.noteAt
                { c with session := s, client := { c.client with ready := true } } _ _) hspeaks _,
              .finishInitialize hc hnote (by rw [client_discard]; rfl)⟩
          | ok root => exact ⟨hspeaks, .finishInitialize hc hnote rfl⟩
        · exact ⟨Speaks.discard (d := { c with session := s }) hspeaks _,
            .quiet (by simp) (by simp) (by rw [hnone]; rfl) (by rw [client_discard])⟩
  · exact absurd h (by simp)

/-! ## The farewell -/

lemma utters_sendShutdown (h : c.sendShutdown n = some d) : c.Utters (.sendShutdown n) d := by
  rw [sendShutdown] at h
  split at h
  · rename_i hc
    have hmessage : c.message? (.sendShutdown n) = if c.client.ready then
        c.session.request? Editor.Client.farewellMethod none else none := by
      rw [message?, hc]
    have hset : ∀ id, (c.calls.set n (.stop .shutDown))[n]? ≠ some (.stop (.shuttingDown id)) := by
      intro id
      rw [List.getElem?_set_self (List.getElem?_eq_some_iff.1 hc).1]
      simp
    split at h
    · exact absurd h (by simp)
    · cases hready : c.client.ready with
      | false =>
        simp only [hready, Bool.not_false, if_true, Option.some.injEq] at h
        rw [hready] at hmessage
        subst h
        exact ⟨hmessage ▸ .quiet, .skip hc hmessage rfl hset⟩
      | true =>
        simp only [hready, Bool.not_true, Bool.false_eq_true, if_false] at h
        rw [hready, if_pos rfl] at hmessage
        have hspeaks := speaks_call c Editor.Client.farewellMethod none
        have hcases := c.session.call_cases Editor.Client.farewellMethod none
        rw [← hmessage] at hspeaks hcases
        rcases hcall : c.session.call Editor.Client.farewellMethod none with ⟨s, r⟩
        rw [hcall] at h hspeaks hcases
        obtain ⟨rfl, hrequest⟩ | ⟨rfl, hnone⟩ := hcases
        · cases h
          exact ⟨hspeaks, .sendShutdown hc hready hrequest rfl rfl⟩
        · cases h
          exact ⟨hspeaks, .skip hc hnone rfl hset⟩
  · exact absurd h (by simp)

lemma rests_failFarewell (h : c.Speaks none d.session) (hclient : d.client = c.client)
    (e : RpcError) : c.Rests (d.closeFarewell n (.error e)) :=
  ⟨h, hclient⟩

lemma utters_finishShutdown (h : c.finishShutdown n = some d) : c.Utters (.finishShutdown n) d := by
  rw [finishShutdown] at h
  split at h
  · rename_i id hc
    obtain ⟨wake, hwake, rfl⟩ := Option.map_eq_some_iff.1 h
    have hmessage : c.message? (.finishShutdown n)
        = (Session.outcome .any wake).toOption.bind fun _ =>
          c.session.notification? Editor.Client.exitMethod none := by
      simp only [message?, hc, answer?, hwake, Option.bind_some]
    cases hanswer : Session.outcome .any wake with
    | error e =>
      rw [hanswer] at hmessage
      exact (rests_failFarewell .quiet rfl e).utters hmessage (by simp) (by simp)
    | ok result =>
      obtain ⟨r, rfl, herror⟩ := Session.outcome_any hanswer
      rw [hanswer] at hmessage
      replace hmessage : _ = c.session.notification? Editor.Client.exitMethod none := hmessage
      have hspeaks := speaks_notify c Editor.Client.exitMethod none
      have hcases := c.session.notify_cases Editor.Client.exitMethod none
      rw [← hmessage] at hspeaks hcases
      simp only [closeFarewell, Editor.Client.closeFarewell]
      rcases hnotify : c.session.notify Editor.Client.exitMethod none with ⟨s, r'⟩
      rw [hnotify] at hspeaks hcases
      obtain ⟨rfl, hnote⟩ | ⟨rfl, hnone⟩ := hcases
      · exact ⟨hspeaks, .finishShutdown hc hwake herror hnote rfl⟩
      · exact ⟨hspeaks, .quiet (by simp) (by simp) (by rw [hnone]; rfl) rfl⟩
  · exact absurd h (by simp)

/-! ## Documents and files -/

lemma tells_cases (c : Connection) (method : String) (params : Except EditorError Json) :
    c.tells method params = none ∨ c.client.ready = true ∧
      ∃ p, c.tells method params = some (.notification ⟨version, method, p⟩) := by
  rw [tells]
  cases c.client.ready with
  | false => exact .inl rfl
  | true =>
    cases params with
    | error e => exact .inl rfl
    | ok p =>
      obtain ⟨-, hnote⟩ | ⟨-, hnone⟩ := c.session.notify_cases method (some p)
      · exact .inr ⟨rfl, some p, hnote⟩
      · exact .inl hnone

lemma speaks_tell (c : Connection) (method : String) (params : Except EditorError Json) :
    c.Speaks (c.tells method params) (c.client.tell c.session method params).1 := by
  rw [tells, Editor.Client.tell.eq_def]
  cases c.client.ready with
  | false => exact .quiet
  | true =>
    cases params with
    | error e => exact .quiet
    | ok params => exact speaks_notify c method (some params)

lemma voices_tells {method : String} {params : Except EditorError Json}
    (hmessage : c.message? m = none ∨ c.message? m = c.tells method params)
    (hnews : method ∈ newsMethods) (hclient : d.client = c.client)
    (hinit : ∀ n, m ≠ .sendInitialize n) (hshutdown : ∀ n, m ≠ .sendShutdown n) : c.Voices m d := by
  have quiet : c.message? m = none → c.Voices m d := fun hnone =>
    .quiet hinit hshutdown (by rw [hnone]; rfl) (by rw [hclient])
  rcases hmessage with hnone | hmessage
  · exact quiet hnone
  · obtain hnone | ⟨hready, p, hnote⟩ := c.tells_cases method params
    · exact quiet (hmessage.trans hnone)
    · exact .news hinit hshutdown hready (hmessage.trans hnote) hnews
        (by rw [hclient, hready])

lemma queue_eq (c : Connection) (r : Report) :
    c.queue r = c.client.tell c.session r.method r.params := by
  cases r <;> rfl

lemma Report.method_mem (r : Report) : r.method ∈ newsMethods := by
  cases r <;> simp [Report.method, newsMethods]

lemma utters_sendDocument (h : c.sendDocument n = some d) : c.Utters (.sendDocument n) d := by
  rw [sendDocument] at h
  split at h
  · rename_i r hc _
    have hmessage : c.message? (.sendDocument n) = c.tells r.method r.params := by rw [message?, hc]
    have hvoices : ∀ d : Connection, d.client = c.client → c.Voices (.sendDocument n) d :=
      fun d hclient =>
      voices_tells (.inr hmessage) r.method_mem hclient (by simp) (by simp)
    have hspeaks := speaks_tell c r.method r.params
    rw [← hmessage, ← queue_eq] at hspeaks
    rcases hqueue : c.queue r with ⟨s, none | e⟩
    · rw [hqueue] at h hspeaks
      cases h
      cases r with
      | opened url => dsimp only; split <;> exact ⟨hspeaks, hvoices _ rfl⟩
      | _ => exact ⟨hspeaks, hvoices _ rfl⟩
    · rw [hqueue] at h hspeaks
      cases h
      exact ⟨hspeaks, hvoices _ rfl⟩
  · exact absurd h (by simp)

lemma speaks_files (c : Connection) (events : List Json) :
    c.Speaks
      (if events.isEmpty then none else c.tells filesMethod (.ok (.obj [("changes", .arr events)])))
      (c.client.didChangeFiles c.session events).1 := by
  rw [Editor.Client.didChangeFiles]
  cases hready : c.client.ready with
  | false =>
    have hnone : ∀ params, c.tells filesMethod params = none :=
      fun params => by rw [tells, hready]; rfl
    rw [hnone, ite_self, Editor.Client.tell.eq_def, hready]
    exact .quiet
  | true =>
    cases events.isEmpty with
    | true => exact .quiet
    | false => exact speaks_tell c filesMethod _

lemma utters_forward (h : c.forward = some d) : c.Utters .forward d := by
  rw [forward] at h
  split at h
  · rename_i events hc _
    have hmessage : c.message? .forward = if events.isEmpty then none else
        c.tells filesMethod (.ok (.obj [("changes", .arr events)])) := by
      rw [message?, hc]
    have hvoices : ∀ d : Connection, d.client = c.client → c.Voices .forward d := by
      intro d hclient
      have hcases : c.message? .forward = none ∨ c.message? .forward
          = c.tells filesMethod (.ok (.obj [("changes", .arr events)])) := by
        rw [hmessage]
        split
        · exact .inl rfl
        · exact .inr rfl
      exact voices_tells hcases (by simp [newsMethods]) hclient (by simp) (by simp)
    have hspeaks := speaks_files c events
    rw [← hmessage] at hspeaks
    simp only [note, noteAt] at h
    rcases hfiles : c.client.didChangeFiles c.session events with ⟨s, none | e⟩
    · rw [hfiles] at h hspeaks
      cases h
      exact ⟨hspeaks, hvoices _ rfl⟩
    · rw [hfiles] at h hspeaks
      cases h
      exact ⟨hspeaks, hvoices _ rfl⟩
  · exact absurd h (by simp)

/-! ## The session and what is left -/

lemma utters_loop {m : Rpc.Move} (h : c.move? (.loop m) = some d) : c.Utters (.loop m) d := by
  simp only [move?, Option.ite_none_right_eq_some, Bool.and_eq_true] at h
  obtain ⟨⟨hloop, -⟩, h⟩ := h
  obtain ⟨s, hs, rfl⟩ := Option.map_eq_some_iff.1 h
  have hadds : c.session.adds m = (c.message? (.loop m)).toList.map Outgoing.text := by
    cases m with
    | post => exact absurd hloop (by simp [isLoopMove])
    | dispatch =>
      rw [Session.adds, message?]
      rcases c.session.inHand? with _ | ⟨_ | _ | _⟩ <;> rfl
    | _ => rfl
  have hgrows := Session.Grows.refl.step hs
  rw [List.nil_append, hadds] at hgrows
  refine ⟨hgrows, .quiet (by simp) (by simp) ?_ rfl⟩
  cases m with
  | dispatch =>
    simp only [message?]
    split <;> rfl
  | _ => rfl

lemma rests_failStart {b : Connection} {e : ConnectionError} (hsession : b.session = c.session)
    (hclient : b.client = c.client) : c.Rests (b.failStart n e) := by
  refine ⟨?_, ?_⟩
  · rw [session_failStart, hsession]
    exact .quiet
  · rw [client_failStart, hclient]

/-- A connection that lets its session make a move which adds nothing. -/
lemma rests_of_move {m : Rpc.Move} (hsession : d.session = c.session.move m)
    (hm : c.session.adds m = []) (hclient : d.client = c.client) : c.Rests d :=
  ⟨hsession ▸ Speaks.quiet.move hm, hclient⟩

lemma rests_lockForStart (h : c.lockForStart n = some d) : c.Rests d := by
  rw [lockForStart] at h
  split at h
  · split at h <;> cases h <;> exact .refl
  · exact absurd h (by simp)

lemma rests_launch {outcome : Except SystemError Nat} (h : c.launch n outcome = some d) :
    c.Rests d := by
  rw [launch] at h
  split at h
  · split at h
    · cases h; exact rests_failStart rfl rfl
    · split at h
      · cases h; exact rests_failStart rfl rfl
      · dsimp only [noteAt] at h
        split at h
        · cases h; exact rests_failStart rfl rfl
        · cases h; exact .refl
  · exact absurd h (by simp)

lemma rests_installHandlers (h : c.installHandlers n = some d) : c.Rests d := by
  rw [installHandlers] at h
  split at h
  · cases h; exact rests_of_move (m := .install _) rfl rfl rfl
  · cases h; exact rests_of_move (m := .install _) rfl rfl rfl
  · exact absurd h (by simp)

lemma rests_abortStart (h : c.abortStart n = some d) : c.Rests d := by
  have hdrop : c.Rests (c.dropClient.killServer.failStart n .cancelled) :=
    rests_of_move (m := .stop) rfl rfl rfl
  rw [abortStart] at h
  split at h
  · exact absurd h (by simp)
  · split at h
    all_goals first | (cases h; exact hdrop) | exact absurd h (by simp)

lemma rests_expireInitialize (h : c.expireInitialize n = some d) : c.Rests d := by
  rw [expireInitialize] at h
  split at h
  · split at h
    · exact absurd h (by simp)
    · rename_i id _ _
      cases h
      refine rests_failHandshake ?_ ?_ _ _
      · exact Speaks.quiet.move (m := .withdraw id) rfl
      · rfl
  · exact absurd h (by simp)

lemma rests_finishDiscard (h : c.finishDiscard n = some d) : c.Rests d := by
  rw [finishDiscard] at h
  split at h
  · split at h
    · exact absurd h (by simp)
    · cases h; exact rests_failStart rfl rfl
  · exact absurd h (by simp)

lemma rests_markRunning (h : c.markRunning n = some d) : c.Rests d := by
  rw [markRunning] at h
  split at h
  · cases h; exact .refl
  · exact absurd h (by simp)

lemma rests_checkAlive (h : c.checkAlive n = some d) : c.Rests d := by
  rw [checkAlive] at h
  split at h
  · cases h; exact .refl
  · exact absurd h (by simp)

lemma rests_finishStart (h : c.finishStart n = some d) : c.Rests d := by
  rw [finishStart] at h
  split at h
  · cases h
    split <;> exact .refl
  · exact absurd h (by simp)

lemma rests_cancelStart (h : c.cancelStart n = some d) : c.Rests d := by
  rw [cancelStart] at h
  split at h
  · cases h; exact .refl
  · exact absurd h (by simp)

lemma rests_lockForStop (h : c.lockForStop n = some d) : c.Rests d := by
  rw [lockForStop] at h
  split at h
  · split at h <;> cases h <;> exact .refl
  · exact absurd h (by simp)

lemma rests_stopWatching (h : c.stopWatching n = some d) : c.Rests d := by
  rw [stopWatching] at h
  split at h
  · exact absurd h (by simp)
  · cases h; exact .refl
  · exact absurd h (by simp)

lemma rests_expireShutdown (h : c.expireShutdown n = some d) : c.Rests d := by
  rw [expireShutdown] at h
  split at h
  · rename_i id _
    split at h
    · exact absurd h (by simp)
    · cases h
      refine rests_failFarewell ?_ ?_ _
      · exact Speaks.quiet.move (m := .withdraw id) rfl
      · rfl
  · exact absurd h (by simp)

lemma rests_flush (h : c.flush n = some d) : c.Rests d := by
  rw [flush] at h
  split at h
  · split at h
    · rename_i s hs
      cases h
      exact ⟨Session.Grows.refl.step hs, rfl⟩
    · cases h; exact .refl
  · exact absurd h (by simp)

lemma rests_close {late : Bool} (h : c.close n late = some d) : c.Rests d := by
  rw [close] at h
  split at h
  · split at h
    · cases h
      exact ⟨(Speaks.quiet.move (m := .cancelAll) rfl).move (m := .stop) rfl, rfl⟩
    · exact absurd h (by simp)
  · exact absurd h (by simp)

lemma rests_checkProcess (h : c.checkProcess n = some d) : c.Rests d := by
  rw [checkProcess] at h
  split at h
  · cases h
    split <;> exact .refl
  · exact absurd h (by simp)

lemma rests_stopProcess (h : c.stopProcess n = some d) : c.Rests d := by
  rw [stopProcess] at h
  split at h
  · split at h <;> cases h <;> exact .refl
  · exact absurd h (by simp)

lemma rests_awaitExit {late : Bool} (h : c.awaitExit n late = some d) : c.Rests d := by
  rw [awaitExit] at h
  split at h
  · split at h
    · cases h; exact .refl
    · exact absurd h (by simp)
  · exact absurd h (by simp)

lemma rests_filterDocument (h : c.filterDocument n = some d) : c.Rests d := by
  rw [filterDocument] at h
  split at h
  · rename_i r hc
    rcases ite_eq_iff.1 h with ⟨-, h⟩ | ⟨-, h⟩
    · cases h; exact .refl
    · cases h
      cases r <;> exact .refl
  · exact absurd h (by simp)

lemma rests_checkRunning (h : c.checkRunning n = some d) : c.Rests d := by
  rw [checkRunning] at h
  split at h
  · cases h; exact .refl
  · exact absurd h (by simp)

lemma rests_receiveBatch {changes : List Watch.Change} (h : c.receiveBatch changes = some d) :
    c.Rests d := by
  rw [receiveBatch] at h
  split at h
  · rcases ite_eq_iff.1 h with ⟨-, h⟩ | ⟨-, h⟩ <;> cases h <;> exact .refl
  · exact absurd h (by simp)

lemma rests_readStderr {line : String} (h : c.move? (.readStderr line) = some d) : c.Rests d := by
  rw [move?] at h
  split at h
  · exact absurd h (by simp)
  · cases h; exact .refl

lemma rests_process {o : Process.Supervisor.Move}
    (h : (c.process.move? o).map (fun p => { c with process := p }) = some d) : c.Rests d := by
  obtain ⟨p, -, rfl⟩ := Option.map_eq_some_iff.1 h
  exact .refl

lemma rests_reportEnd {pid : Nat} (h : c.reportEnd pid = some d) : c.Rests d := by
  obtain ⟨p, -, rfl⟩ := Option.map_eq_some_iff.1 h
  dsimp only
  split <;> exact .refl

/-- **Every move adds to the session what it says**, and nothing else. -/
theorem utters_of_move? (h : c.move? m = some d) : c.Utters m d := by
  cases m with
  | sendInitialize n => exact utters_sendInitialize h
  | finishInitialize n watch => exact utters_finishInitialize h
  | sendShutdown n => exact utters_sendShutdown h
  | finishShutdown n => exact utters_finishShutdown h
  | sendDocument n => exact utters_sendDocument h
  | forward => exact utters_forward h
  | loop m => exact utters_loop h
  | callStart | callStop | callDocument =>
    have hrests : c.Rests d := by cases h; exact .refl
    exact hrests.utters rfl nofun nofun
  | lockForStart n => exact (rests_lockForStart h).utters rfl nofun nofun
  | launch n outcome => exact (rests_launch h).utters rfl nofun nofun
  | installHandlers n => exact (rests_installHandlers h).utters rfl nofun nofun
  | abortStart n => exact (rests_abortStart h).utters rfl nofun nofun
  | expireInitialize n => exact (rests_expireInitialize h).utters rfl nofun nofun
  | finishDiscard n => exact (rests_finishDiscard h).utters rfl nofun nofun
  | markRunning n => exact (rests_markRunning h).utters rfl nofun nofun
  | checkAlive n => exact (rests_checkAlive h).utters rfl nofun nofun
  | finishStart n => exact (rests_finishStart h).utters rfl nofun nofun
  | cancelStart n => exact (rests_cancelStart h).utters rfl nofun nofun
  | lockForStop n => exact (rests_lockForStop h).utters rfl nofun nofun
  | stopWatching n => exact (rests_stopWatching h).utters rfl nofun nofun
  | expireShutdown n => exact (rests_expireShutdown h).utters rfl nofun nofun
  | flush n => exact (rests_flush h).utters rfl nofun nofun
  | close n late => exact (rests_close h).utters rfl nofun nofun
  | checkProcess n => exact (rests_checkProcess h).utters rfl nofun nofun
  | stopProcess n => exact (rests_stopProcess h).utters rfl nofun nofun
  | awaitExit n late => exact (rests_awaitExit h).utters rfl nofun nofun
  | filterDocument n => exact (rests_filterDocument h).utters rfl nofun nofun
  | checkRunning n => exact (rests_checkRunning h).utters rfl nofun nofun
  | receiveBatch changes => exact (rests_receiveBatch h).utters rfl nofun nofun
  | readStderr line => exact (rests_readStderr h).utters rfl nofun nofun
  | exit pid code => exact (rests_process h).utters rfl nofun nofun
  | record pid => exact (rests_process h).utters rfl nofun nofun
  | report pid => exact (rests_reportEnd h).utters rfl nofun nofun

/-! ## Runs -/

section Run

variable {b : Connection} {moves : List Move} {config : Config} {home : Path} {processId : Nat}

/-- What holds at the beginning of a run and is kept by each of its moves holds at its end. -/
lemma moves?_induction {P : List Move → Connection → Prop} (h : b.moves? moves = some c)
    (hstart : P [] b) (hstep : ∀ {moves c m d}, b.moves? moves = some c → P moves c →
      c.move? m = some d → P (moves ++ [m]) d) : P moves c := by
  induction moves using List.reverseRecOn generalizing c with
  | nil =>
    cases h
    exact hstart
  | append_singleton moves m ih =>
    rw [moves?_append] at h
    obtain ⟨c', hc', hlast⟩ := Option.bind_eq_some_iff.1 h
    obtain ⟨e, hm, he⟩ := Option.bind_eq_some_iff.1 hlast
    cases he
    exact hstep hc' (ih hc') hm

lemma said_append (h : b.moves? moves = some c) (rest : List Move) :
    b.said (moves ++ rest) = b.said moves ++ c.said rest := by
  induction moves generalizing b with
  | nil =>
    cases h
    rfl
  | cons m moves ih =>
    obtain ⟨e, hm, he⟩ := Option.bind_eq_some_iff.1 h
    rw [List.cons_append, said, said, hm, Option.elim_some, Option.elim_some, ih he,
      List.append_assoc]

lemma said_concat (h : b.moves? moves = some c) (m : Move) :
    b.said (moves ++ [m]) = b.said moves ++ (c.message? m).toList := by
  rw [said_append h]
  cases hm : c.move? m <;> simp [said, hm]

lemma said_cons (hm : c.move? m = some d) (hmessage : c.message? m = none) (rest : List Move) :
    c.said (m :: rest) = d.said rest := by
  rw [said, hm, hmessage, Option.elim_some, Option.toList_none, List.nil_append]

/-- **What was queued** are the messages said. -/
lemma carries_said (h : (new config home processId).moves? moves = some c) :
    c.session.Carries (((new config home processId).said moves).map Outgoing.text) := by
  refine moves?_induction
    (P := fun moves c => c.session.Carries (((new config home processId).said moves).map _)) h
    Session.carries_start fun hmoves hcarries hm => ?_
  rw [said_concat hmoves, List.map_append]
  exact hcarries.grows (utters_of_move? hm).speaks

/-- The messages of a run that were written. -/
def sent (b : Connection) (moves : List Move) (c : Connection) : List Outgoing :=
  (b.said moves).take c.session.written.length

/-- **What was written** are the first of the messages said. -/
theorem written_eq_sent (h : (new config home processId).moves? moves = some c) :
    c.session.written = ((new config home processId).sent moves c).map Outgoing.text := by
  rw [sent, List.map_take]
  exact List.prefix_iff_eq_take.1 (carries_said h).written

end Run

end ServerLink.Connection
