import Mathlib
import ServerLink.Editor.Client
import ServerLink.Proofs.Frame.Header
import ServerLink.Proofs.Rpc.Arrival
import ServerLink.Proofs.Rpc.Reread

/-!
# Messages from the server

A stream of whole frames arrives in any chunks while callers queue messages, marks are set and the
session is given up.  **`Runs.dispatched`** says what becomes of it.

**Order.**  The messages handed out are the first of the stream, and all of them once the loop has
had its turns, unless it was asked to stop or the stream failed it.

**Replies.**  What joins the queue because of what arrived is one reply for each request handed out,
in order (`enqueued_of_step`).  Where nobody answers, or the editor's client does, a reply has the
id of its request and either a result or an error, and its text is read as that reply
(`Replies.own`).

**Notifications.**  Each one handed out is shown by the handler installed last (`heard_of_step`),
and nothing else depends on that handler (`move?_listen`).
-/

namespace ServerLink.Rpc

open ServerLink.Frame ServerLink.Transport ServerLink.Log

/-- The request that a text is. -/
def Inbound.request? (text : String) : Option Request :=
  match Inbound.read text with
  | .ok (.request r) => some r
  | _ => none

/-- The notification that a text is. -/
def Inbound.notification? (text : String) : Option Notification :=
  match Inbound.read text with
  | .ok (.notification n) => some n
  | _ => none

/-- Whether a step is one of the loop with what arrives. -/
def Step.isInbound : Step → Bool
  | .session (.absorb _) | .session .deliver | .session .dispatch | .session .loseStream => true
  | _ => false

namespace Session

variable {s t : Session}

/-- What the installed handler shows of a notification. -/
def hear (s : Session) (n : Notification) : List Shown :=
  match s.handlers.onNotification with
  | some handler => handler n
  | none => []

/-- The session with another handler for notifications. -/
def listen (s : Session) (handler : Option (Notification → List Shown)) : Session :=
  { s with handlers := { s.handlers with onNotification := handler } }

/-! ## Replies -/

/-- A reply has the id of its request, and either a result or an error.  So has the text that is
queued for it, if the numbers of the id can be read back, and it is read as that reply. -/
structure Own (r : Request) (reply : Response) : Prop where
  id : reply.id = r.id
  either : reply.result.isSome = true ↔ reply.error.isSome = false
  members : r.id.Legible → ∃ v, Json.parse reply.text = .ok v ∧ v.field? "id" = some r.id
    ∧ ((v.field? "result").isSome = true ↔ (v.field? "error").isSome = false)
  read : r.id.Legible → Inbound.read reply.text = .ok (Inbound.response reply).settled

/-- The replies to a request: a flat result, or a refusal without data. -/
inductive Replies (r : Request) : Response → Prop where
  | result {v : Json} (hordered : v.Ordered) (hlegible : v.Legible) (hflat : v.depth ≤ 1) :
      Replies r (.success r.id v)
  | refusal {code : Int} (message : String) (hfits : Shape.Fits32 code) :
      Replies r (.refusal r.id code message)

lemma replies_done (r : Request) : Replies r (.done r.id) :=
  .result trivial trivial (Nat.zero_le _)

lemma replies_methodNotFound (r : Request) : Replies r (.methodNotFound r.id r.method) :=
  .refusal _ (by decide)

lemma replies_answer (r : Request) : Replies r (Editor.answer r).1 := by
  unfold Editor.answer
  split
  · exact replies_done r
  · exact replies_done r
  · -- the settings asked for, each of them null
    have hnulls : ∀ v ∈ List.replicate (Editor.settingsAsked r.params) Json.null, v = .null :=
      fun v hv => (List.mem_replicate.1 hv).2
    refine .result (Json.everywhere_arr.2 ⟨trivial, fun v hv => ?_⟩)
      (Json.everywhere_arr.2 ⟨trivial, fun v hv => ?_⟩)
      (Nat.succ_le_succ (Json.depthItems_le_iff.2 fun v hv => ?_))
    all_goals rw [hnulls v hv]
    · exact trivial
    · exact trivial
    · exact Nat.zero_le _
  · exact replies_methodNotFound r

/-- **A request is replied to** where nobody answers or the editor's client does. -/
lemma replies_replyTo (r : Request) (h : s.handlers.onRequest = none
    ∨ s.handlers.onRequest = Editor.Client.handlers.onRequest) : Replies r (s.replyTo r).1 := by
  rw [replyTo]
  rcases h with h | h
  · rw [h]
    exact replies_methodNotFound r
  · rw [h]
    exact replies_answer r

/-- The id of a request that arrived stood in its text. -/
lemma id_of_request? {text : String} {r : Request} (h : Inbound.request? text = some r) :
    r.id.Ordered ∧ r.id.depth + 1 ≤ Json.depthLimit := by
  have hread : Inbound.read text = .ok (.request r) := by
    rw [Inbound.request?] at h
    split at h
    · cases h
      assumption
    · cases h
  obtain ⟨v, hparse⟩ : ∃ v, Json.parse text = .ok v := by
    cases hparse : Json.parse text with
    | ok v => exact ⟨v, rfl⟩
    | error fault => simp [Inbound.read, hparse] at hread
  obtain ⟨hr, -⟩ := (Inbound.read_eq_ok_iff hparse _).1 hread
  obtain ⟨fields, rfl⟩ := exists_obj_of_field? hr.id
  have hmem : ("id", r.id) ∈ fields := mem_of_lookup_eq_some hr.id
  have hdepth := Json.depthFields_le_iff.1 (le_refl (Json.depthFields fields)) _ hmem
  exact ⟨(Json.everywhere_obj.1 (Json.ordered_of_parse hparse)).2 _ hmem,
    (Nat.succ_le_succ hdepth).trans (Json.depth_of_parse hparse)⟩

lemma Replies.id {r : Request} {reply : Response} (h : Replies r reply) : reply.id = r.id := by
  cases h <;> rfl

/-- The text of a reply can be read: its id fits where it stood in the request. -/
lemma Replies.readable {r : Request} {reply : Response} (h : Replies r reply)
    (hordered : r.id.Ordered) (hlegible : r.id.Legible)
    (hdepth : r.id.depth + 1 ≤ Json.depthLimit) :
    (Inbound.response reply).Readable := by
  have hresult : ∀ v ∈ reply.result, v.Ordered ∧ v.Legible ∧ v.depth ≤ 1 := by
    cases h with
    | result hv hv' hflat => simpa [Response.success] using ⟨hv, hv', hflat⟩
    | refusal => simp [Response.refusal]
  have herror : ∀ e ∈ reply.error, Shape.Fits32 e.code ∧ e.data = none := by
    cases h with
    | result => simp [Response.success]
    | refusal _ hfits => simpa [Response.refusal] using hfits
  constructor
  case ordered =>
    refine Inbound.forall_payloads_response.2
      ⟨h.id ▸ hordered, fun v hv => (hresult v hv).1, fun e he v hv => ?_⟩
    simp [(herror e he).2] at hv
  case legible =>
    refine Inbound.forall_payloads_response.2
      ⟨h.id ▸ hlegible, fun v hv => (hresult v hv).2.1, fun e he v hv => ?_⟩
    simp [(herror e he).2] at hv
  case fits => exact fun e he => (herror e he).1
  case shallow =>
    have hflat {v : Json} (hv : v.depth ≤ 1) : v.depth ≤ Json.depthLimit - 1 := hv.trans (by decide)
    refine Nat.succ_le_succ (Json.depthFields_le_iff.2
      ((Inbound.forall_fields_response (p := (·.depth ≤ Json.depthLimit - 1))).2
        ⟨Nat.zero_le _, h.id ▸ Nat.le_sub_one_of_lt hdepth, fun v hv => hflat (hresult v hv).2.2,
          fun e he => hflat ?_⟩))
    simp [Refusal.toJson, Refusal.fields, Json.optField, (herror e he).2, Json.depth,
      Json.depthFields]

/-- **A request is answered in its own name**, and so the text of the reply says. -/
lemma Replies.own {text : String} {r : Request} {reply : Response} (h : Replies r reply)
    (hr : Inbound.request? text = some r) : Own r reply := by
  obtain ⟨hordered, hdepth⟩ := id_of_request? hr
  have heither : reply.result.isSome = true ↔ reply.error.isSome = false := by
    cases h <;> simp [Response.success, Response.refusal]
  refine ⟨h.id, heither, fun hlegible => ?_,
    fun hlegible => (h.readable hordered hlegible hdepth).read_eq⟩
  refine ⟨_, (h.readable hordered hlegible hdepth).parse_eq, ?_⟩
  simp only [Inbound.value, Json.field?_arrange (nodup_fields_response reply), Option.isSome_map]
  constructor
  · simp [Response.fields, List.lookup_cons, h.id, Json.arrange_of_ordered hordered]
  · simpa [Response.fields, List.lookup_cons, List.lookup_append, lookup_optField] using heither

lemma takeResponse_outbox (s : Session) (r : Response) : (s.takeResponse r).outbox = s.outbox := by
  rw [takeResponse]
  split
  · rfl
  · split <;> rfl

lemma takeNotification_eq (s : Session) (n : Notification) :
    s.takeNotification n = s.showAll (s.hear n) := by
  rw [takeNotification, hear]
  cases s.handlers.onNotification with
  | some handler => rfl
  | none => simp [showAll]

/-- A message that is handed out adds to the queue the reply that it asks for, if any. -/
lemma dispatch_outbox (s : Session) (text : String) : (s.dispatch text).outbox
    = s.outbox ++ (Inbound.request? text).toList.map fun r => .message (s.replyTo r).1.text := by
  cases hread : Inbound.read text with
  | error e =>
    simp only [dispatch, Inbound.request?, hread]
    exact (List.append_nil _).symm
  | ok m =>
    cases m with
    | request r =>
      simp only [dispatch, Inbound.request?, hread]
      rfl
    | notification n =>
      simp only [dispatch, Inbound.request?, hread, takeNotification_eq]
      exact (List.append_nil _).symm
    | response r =>
      simp only [dispatch, Inbound.request?, hread, takeResponse_outbox]
      exact (List.append_nil _).symm

/-- A notification that is handed out is shown by the handler. -/
lemma dispatch_shown (s : Session) {text : String} {n : Notification}
    (h : Inbound.notification? text = some n) : (s.dispatch text).shown = s.shown ++ s.hear n := by
  rw [Inbound.notification?] at h
  split at h
  · rename_i hread
    cases h
    simp only [dispatch, hread, takeNotification_eq]
    rfl
  · exact absurd h (by simp)

lemma dispatch_listen (s : Session) {text : String} (h : Inbound.notification? text = none)
    (handler : Option (Notification → List Shown)) :
    (s.listen handler).dispatch text = (s.dispatch text).listen handler := by
  cases hread : Inbound.read text with
  | error e =>
    simp only [dispatch, hread]
    rfl
  | ok m =>
    cases m with
    | request r =>
      simp only [dispatch, hread]
      rfl
    | notification n => exact absurd h (by simp [Inbound.notification?, hread])
    | response r =>
      simp only [dispatch, hread, takeResponse]
      split
      · rfl
      · show (if s.pending.contains _ = true then _ else _) = _
        split <;> rfl

section Listen

variable (s) (handler : Option (Notification → List Shown))

@[simp] lemma listen_phase : (s.listen handler).phase = s.phase := rfl

@[simp] lemma listen_stopping : (s.listen handler).stopping = s.stopping := rfl

@[simp] lemma listen_outbox : (s.listen handler).outbox = s.outbox := rfl

@[simp] lemma listen_decoder : (s.listen handler).decoder = s.decoder := rfl

@[simp] lemma listen_isOpen : (s.listen handler).isOpen = s.isOpen := rfl

@[simp] lemma listen_turnsToQueue : (s.listen handler).turnsToQueue = s.turnsToQueue := rfl

@[simp] lemma listen_turnsToStream : (s.listen handler).turnsToStream = s.turnsToStream := rfl

lemma takeUp?_listen : (s.listen handler).takeUp? = s.takeUp?.map (·.listen handler) := by
  rw [takeUp?, takeUp?, Option.map_map]
  rfl

end Listen

/-- **Only notifications reach the handler for notifications**: every other move does the same under
any other such handler. -/
theorem move?_listen (s : Session) (handler : Option (Notification → List Shown)) {m : Move}
    (hinstall : ∀ h, m ≠ .install h)
    (hhands : ∀ text ∈ s.hands m, Inbound.notification? text = none) :
    (s.listen handler).move? m = (s.move? m).map (·.listen handler) := by
  cases m with
  | allot | register | withdraw | cancelAll | stop => rfl
  | install h => exact absurd rfl (hinstall h)
  | post | mark | observeStop | wake | close | drop | loseStream =>
    simp only [move?, listen_isOpen, listen_phase, listen_stopping, listen_turnsToStream,
      listen_decoder, apply_ite (Option.map fun t : Session => t.listen handler)]
    rfl
  | write refusal =>
    simp only [move?, listen_turnsToQueue, listen_outbox]
    split
    · cases refusal <;> rfl
    · rfl
  | acknowledge =>
    simp only [move?, listen_turnsToQueue, listen_outbox]
    split <;> rfl
  | deliver =>
    simp only [move?, listen_turnsToStream, takeUp?_listen,
      apply_ite (Option.map fun t : Session => t.listen handler)]
    rfl
  | absorb chunk =>
    -- the handlers stand beside the decoder, so they are put in before or after it works
    have hnext : ∀ t : Session, (t.listen handler).takeUp?.getD (t.listen handler)
        = (t.takeUp?.getD t).listen handler := by
      intro t
      rw [takeUp?_listen]
      cases t.takeUp? <;> rfl
    rw [move?, move?, apply_ite (Option.map fun t : Session => t.listen handler)]
    refine if_congr Iff.rfl (congrArg some ?_) rfl
    refine Eq.trans ?_ (apply_ite (fun t : Session => t.listen handler)
      ((s.decoder.absorb chunk).fault.isSome = true) _ _).symm
    exact if_congr Iff.rfl rfl (hnext
      { s.showAll ((s.decoder.absorb chunk).log.map (Shown.line Log.frameTarget)) with
        decoder := (s.decoder.absorb chunk).decoder })
  | dispatch =>
    simp only [move?, listen_phase]
    split
    · rename_i text hphase
      have htext := hhands text (by simp [hands, held, hphase])
      exact congrArg some (dispatch_listen { s with phase := .running } htext handler)
    · rfl

end Session

namespace Exchange

/-- What a step adds to the end of the queue. -/
def gains (e : Exchange) (st : Step) : List Outbound :=
  (e.step st).session.outbox.drop e.session.outbox.length

/-- What a step shows. -/
def shows (e : Exchange) (st : Step) : List Shown :=
  (e.step st).session.shown.drop e.session.shown.length

/-- What joined the queue because of what arrived, in order. -/
def enqueued (past : List (Exchange × Step)) : List Outbound :=
  past.flatMap fun x => if x.2.isInbound then x.1.gains x.2 else []

/-- The requests that were handed out, each with the session that answers it. -/
def requests (past : List (Exchange × Step)) : List (Session × Request) :=
  (handings past).filterMap fun x => (Inbound.request? x.2).map (x.1, ·)

/-- The notifications that were handed out, each with the session that listens. -/
def notices (past : List (Exchange × Step)) : List (Session × Notification) :=
  (handings past).filterMap fun x => (Inbound.notification? x.2).map (x.1, ·)

/-- Whether a step hands out a notification. -/
def notifies (e : Exchange) (st : Step) : Bool :=
  (e.hands st).any fun text => (Inbound.notification? text).isSome

/-- What the steps that handed out a notification showed, in order. -/
def heard (past : List (Exchange × Step)) : List Shown :=
  past.flatMap fun x => if x.1.notifies x.2 then x.1.shows x.2 else []

/-- The handlers that a step leaves behind. -/
def installs (h : Handlers) : Step → Handlers
  | .session (.install new) => new
  | _ => h

/-- The handlers that were installed last. -/
def installed (past : List (Exchange × Step)) : Handlers :=
  past.foldl (fun h x => installs h x.2) .none

/-- What becomes of a stream with whole frames of these bodies, part of which has been taken. -/
structure Dispatched (stream : Bytes) (bodies : List Bytes) (past : List (Exchange × Step))
    (e : Exchange) : Prop where
  /-- The messages handed out are the first of the stream, each once. -/
  ordered : dispatched past <+: bodies.map message
  /-- If nobody asked the loop to stop and the stream did not fail it, then the loop hands out all
  of them as soon as it has had enough turns with what is left of the stream. -/
  complete : Unbroken past → ∀ (w : World) (waiting : List Bytes), w.toExchange = e →
    w.stream = .carrying waiting true → (absorbed past ++ waiting).flatten = stream →
    ∀ fuel ≥ waiting.length + w.session.weight + 3 * bodies.length,
      ∃ more, Runs (past ++ more) (w.settleFor fuel).toExchange ∧ Unbroken (past ++ more)
        ∧ dispatched (past ++ more) = bodies.map message
  /-- What joined the queue because of what arrived are the replies to the requests handed out. -/
  replied : enqueued past = (requests past).map fun x => .message (x.1.replyTo x.2).1.text
  /-- Where nobody answers, or the editor's client does, a reply belongs to its request, and the
  text that joined the queue says so. -/
  own : ∀ x ∈ requests past,
    (x.1.handlers.onRequest = none ∨ x.1.handlers.onRequest = Editor.Client.handlers.onRequest) →
    Session.Own x.2 (x.1.replyTo x.2).1
  /-- The steps that hand out notifications show what the handler shows of each. -/
  heard : heard past = (notices past).flatMap fun x => x.1.hear x.2
  /-- No other move depends on the handler for notifications. -/
  unheard : ∀ m handler, (∀ h, m ≠ .install h) → e.notifies (.session m) = false →
    (e.session.listen handler).move? m = (e.session.move? m).map (·.listen handler)
  /-- The handlers are those installed last. -/
  installed : e.session.handlers = installed past

variable {e f : Exchange} {st : Step} {past : List (Exchange × Step)}

lemma requests_append (past : List (Exchange × Step)) (x : Exchange × Step) :
    requests (past ++ [x]) = requests past
      ++ ((x.1.hands x.2).filterMap Inbound.request?).map (x.1.session, ·) := by
  rw [requests, handings_append, List.filterMap_append, List.filterMap_map, List.map_filterMap]
  rfl

lemma notices_append (past : List (Exchange × Step)) (x : Exchange × Step) :
    notices (past ++ [x]) = notices past
      ++ ((x.1.hands x.2).filterMap Inbound.notification?).map (x.1.session, ·) := by
  rw [notices, handings_append, List.filterMap_append, List.filterMap_map, List.map_filterMap]
  rfl

lemma step_eq (h : e.step? st = some f) : e.step st = f := by
  rw [step, h]
  rfl

lemma dispatch_cases (h : e.step? (.session .dispatch) = some f) : ∃ text,
    e.hands (.session .dispatch) = [text]
      ∧ f.session = { e.session with phase := .running }.dispatch text := by
  simp only [step?, Move.isCallers, Bool.false_eq_true, if_false, Option.map_eq_some_iff] at h
  obtain ⟨s, h, rfl⟩ := h
  rw [Session.move?] at h
  split at h
  · rename_i text hphase
    refine ⟨text, ?_, (Option.some.inj h).symm⟩
    rw [hands, Session.hands, Session.held, hphase]
  · exact absurd h (by simp)

/-- **What joins the queue because of what arrived** is the reply to a request handed out. -/
lemma enqueued_of_step (h : e.step? st = some f) : (if st.isInbound then e.gains st else [])
    = ((e.hands st).filterMap Inbound.request?).map
      fun r => .message (e.session.replyTo r).1.text := by
  have quiet : f.session.outbox = e.session.outbox → e.gains st = [] := by
    intro houtbox
    rw [gains, step_eq h, houtbox, List.drop_length]
  cases st with
  | begin | turn | notify => rfl
  | session m =>
    cases m with
    | dispatch =>
      obtain ⟨text, hhands, hf⟩ := dispatch_cases h
      rw [if_pos (by rfl), gains, step_eq h, hf, Session.dispatch_outbox, List.drop_left, hhands]
      cases hrequest : Inbound.request? text <;> simp [hrequest, Session.replyTo]
    | absorb | deliver | loseStream =>
      cases steps_of_step? h with
      | session _ hmove => cases Session.moves_of_move? hmove <;> exact quiet rfl
    | _ => rfl

/-- **A notification handed out** is shown by the handler. -/
lemma heard_of_step (h : e.step? st = some f) : (if e.notifies st then e.shows st else [])
    = ((e.hands st).filterMap Inbound.notification?).flatMap e.session.hear := by
  cases st with
  | begin | turn | notify => rfl
  | session m =>
    cases m with
    | dispatch =>
      obtain ⟨text, hhands, hf⟩ := dispatch_cases h
      rw [notifies, hhands]
      cases hnotice : Inbound.notification? text with
      | none => simp [hnotice]
      | some n =>
        have hshown := Session.dispatch_shown { e.session with phase := .running } hnotice
        rw [shows, step_eq h, hf, hshown]
        simp [hnotice, Session.hear]
    | _ => rfl

lemma Steps.installed (h : Steps e st f) : f.session.handlers = installs e.session.handlers st := by
  cases h with
  | begin | notify | unheard => rfl
  | turn _ h =>
    cases h <;> rfl
  | session _ h =>
    cases Session.moves_of_move? h <;> rfl

/-- **Messages from the server** are handed out in order, all of them if nothing breaks the loop,
and each request is answered once. -/
theorem Runs.dispatched (h : Runs past e) {stream : Bytes} {bodies : List Bytes}
    (hstream : Cut stream bodies []) (harrived : (absorbed past).flatten <+: stream) :
    Dispatched stream bodies past e := by
  constructor
  case ordered =>
    have hfirst := follows_prefix h.follows hstream harrived
    rw [List.append_assoc] at hfirst
    exact (List.prefix_append _ _).trans hfirst
  case complete =>
    rintro hunbroken w waiting rfl hcarries hbytes fuel hfuel
    exact w.settleFor_dispatches hstream fuel h hunbroken hcarries hbytes (by omega)
  case replied =>
    clear harrived
    induction h with
    | start => rfl
    | @step past e f st _ next ih =>
      rw [enqueued, List.flatMap_append, ← enqueued, ih, List.flatMap_singleton,
        enqueued_of_step next, requests_append, List.map_append, List.map_map]
      rfl
  case own =>
    intro x hx hnobody
    obtain ⟨y, -, hy⟩ := List.mem_filterMap.1 hx
    obtain ⟨r, hr, rfl⟩ := Option.map_eq_some_iff.1 hy
    exact (Session.replies_replyTo r hnobody).own hr
  case heard =>
    clear harrived
    induction h with
    | start => rfl
    | @step past e f st _ next ih =>
      rw [Exchange.heard, List.flatMap_append, ← Exchange.heard, ih, List.flatMap_singleton,
        heard_of_step next, notices_append, List.flatMap_append, List.flatMap_map]
  case unheard =>
    intro m handler hinstall hnotifies
    refine Session.move?_listen e.session handler hinstall fun text htext => ?_
    rw [notifies, List.any_eq_false] at hnotifies
    simpa using hnotifies text htext
  case installed =>
    clear harrived
    induction h with
    | start => rfl
    | step _ next ih =>
      rw [Exchange.installed, List.foldl_append, ← Exchange.installed, ← ih]
      exact (steps_of_step? next).installed

/-! ## A request and a notification in two chunks -/

def ask : String :=
  "\x7b\"jsonrpc\":\"2.0\",\"id\":\"a\",\"method\":\"client/registerCapability\"\x7d"

def tell : String := "\x7b\"jsonrpc\":\"2.0\",\"method\":\"$/progress\"\x7d"

/-- Both, as they travel. -/
def traffic : Bytes := Frame.ofMessage ask ++ Frame.ofMessage tell

/-- A piece of the first header has arrived, and a message was written meanwhile. -/
def begun : Exchange :=
  ⟨{ Session.start with
      handlers := Editor.Client.handlers, decoder := ⟨traffic.take 7, []⟩
      written := [Notification.text ⟨version, "exit", none⟩] }, []⟩

/-- The rest has arrived, and the request is in hand. -/
def taken : Exchange :=
  ⟨{ begun.session with decoder := ⟨[], [tell]⟩, phase := .handing ask }, []⟩

lemma cut_traffic : Cut traffic [Utf8.ofString ask, Utf8.ofString tell] [] := by
  have h : decode ([Utf8.ofString ask, Utf8.ofString tell].map encode).flatten = _ :=
    decode_encodes (by decide)
  rw [cut_nil_iff]
  simpa [traffic, Frame.ofMessage] using h

/-- The request is in hand once the rest has arrived. -/
lemma absorb_rest : begun.step? (.session (.absorb (traffic.drop 7))) = some taken := by
  have habsorb : begun.session.decoder.absorb (traffic.drop 7) = ⟨⟨[], [ask, tell]⟩, [], none⟩ := by
    show Decoder.absorb ⟨traffic.take 7, []⟩ _ = _
    rw [Decoder.absorb]
    simp only [List.take_append_drop, cut_nil_iff.1 cut_traffic]
    rfl
  simp only [step?, Session.move?, habsorb]
  rfl

/-- Nothing is in hand before. -/
lemma absorb_piece (handlers : Handlers) :
    step? ⟨{ Session.start with handlers }, []⟩ (.session (.absorb (traffic.take 7)))
      = some ⟨{ Session.start with handlers, decoder := ⟨traffic.take 7, []⟩ }, []⟩ := by
  have hpiece : decode (traffic.take 7) = ⟨[], traffic.take 7, none⟩ := decode_of_incomplete rfl
  have habsorb : Decoder.empty.absorb (traffic.take 7) = ⟨⟨traffic.take 7, []⟩, [], none⟩ := by
    rw [Decoder.absorb]
    simp only [Decoder.empty, List.nil_append, hpiece]
    rfl
  simp only [step?, Session.move?, Session.start, habsorb]
  rfl

/-- A request and a notification arrive in two chunks, with a message written in between. -/
theorem dispatched_traffic : ∃ past e, Runs past e ∧ dispatched past = [ask, tell]
    ∧ Cut traffic [Utf8.ofString ask, Utf8.ofString tell] []
    ∧ (absorbed past).flatten <+: traffic
    ∧ Dispatched traffic [Utf8.ofString ask, Utf8.ofString tell] past e := by
  have h1 := Runs.step .start
    (rfl : start.step? (.session (.install Editor.Client.handlers)) = some _)
  have h2 := Runs.step h1 (absorb_piece _)
  have h3 := Runs.step h2 (rfl : Exchange.step? _ (.notify "exit" none) = some _)
  have h4 := Runs.step h3 (rfl : Exchange.step? _ (.session (.write none)) = some begun)
  have h5 := Runs.step h4 absorb_rest
  have h6 := Runs.step h5 (rfl : taken.step? (.session .dispatch) = some _)
  have h7 := Runs.step h6 (rfl : Exchange.step? _ (.session (.write none)) = some _)
  have h8 := Runs.step h7 (rfl : Exchange.step? _ (.session .deliver) = some _)
  have h9 := Runs.step h8 (rfl : Exchange.step? _ (.session .dispatch) = some _)
  have harrived : traffic.take 7 ++ (traffic.drop 7 ++ []) <+: traffic := by simp
  exact ⟨_, _, h9, rfl, cut_traffic, harrived, h9.dispatched cut_traffic harrived⟩

end Exchange

end ServerLink.Rpc
