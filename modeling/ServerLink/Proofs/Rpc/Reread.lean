import Mathlib
import ServerLink.Proofs.Json.RoundTrip
import ServerLink.Proofs.Rpc.Classify

/-!
# Messages survive being sent

A message that was written is read as the same message, but for what a text cannot tell apart: an
optional member that is null is read as absent, and a request whose id is null as a notification.

* `Inbound.settled` — the message as it is read.
* `Inbound.Readable` — what the kinds of its members promise, that its numbers can be read back, and
  that it is not nested too deep.
* **`Inbound.read_text`** — a message is read from its text as settled, and a settled one as itself.
-/

namespace ServerLink.Rpc

open Shape (unlessNull Fits32)

/-- The refusal as it is read. -/
def Refusal.settled (e : Refusal) : Refusal := { e with data := unlessNull e.data }

namespace Inbound

/-! ## Messages as values -/

/-- The value that is written for a message. -/
def value : Inbound → Json
  | .request r => .obj r.fields
  | .notification n => .obj n.fields
  | .response r => .obj r.fields

lemma text_eq (m : Inbound) : m.text = m.value.write := by
  cases m <;> rfl

/-- The message as it is read. -/
def settled : Inbound → Inbound
  | .request r =>
    if r.id.isNull then .notification ⟨r.jsonrpc, r.method, unlessNull r.params⟩
    else .request { r with params := unlessNull r.params }
  | .notification n => .notification { n with params := unlessNull n.params }
  | .response r =>
    .response { r with result := unlessNull r.result, error := r.error.map Refusal.settled }

/-- The values of any kind that a message carries. -/
def payloads : Inbound → List Json
  | .request r => r.id :: r.params.toList
  | .notification n => n.params.toList
  | .response r => r.id :: (r.result.toList ++ (r.error.bind Refusal.data).toList)

/-- The refusal that a message carries. -/
def refusal? : Inbound → Option Refusal
  | .response r => r.error
  | _ => none

/-- What a message has to be for its text to be read: its values are in order and their numbers can
be read back, the number of a refusal fits into 32 bits, and not too many brackets are open at
once. -/
structure Readable (m : Inbound) : Prop where
  ordered : ∀ v ∈ m.payloads, v.Ordered
  legible : ∀ v ∈ m.payloads, v.Legible
  fits : ∀ e ∈ m.refusal?, Fits32 e.code
  shallow : m.value.depth ≤ Json.depthLimit

instance (m : Inbound) : Decidable m.Readable :=
  decidable_of_iff ((∀ v ∈ m.payloads, v.Ordered) ∧ (∀ v ∈ m.payloads, v.Legible) ∧
      (∀ e ∈ m.refusal?, Fits32 e.code) ∧ m.value.depth ≤ Json.depthLimit)
    ⟨fun h => ⟨h.1, h.2.1, h.2.2.1, h.2.2.2⟩,
      fun h => ⟨h.ordered, h.legible, h.fits, h.shallow⟩⟩

end Inbound

/-! ## Members of written messages -/

lemma lookup_optField (name m : String) (v : Option Json) :
    (Json.optField name v).lookup m = if m = name then v else none := by
  by_cases h : m = name
  · subst h
    cases v <;> simp [Json.optField]
  · cases v <;> simp [Json.optField, List.lookup_cons, h, beq_eq_false_iff_ne.2 h]

lemma forall_mem_optField {name : String} {v : Option Json} {p : Json → Prop} :
    (∀ f ∈ Json.optField name v, p f.2) ↔ ∀ w ∈ v, p w := by
  cases v <;> simp [Json.optField]

lemma map_arrange_of_ordered {member : Option Json} (h : ∀ v ∈ member, v.Ordered) :
    member.map Json.arrange = member := by
  cases member with
  | none => rfl
  | some v => exact congrArg some (Json.arrange_of_ordered (h v rfl))

lemma isRequest_arrange {r : Request} (hid : r.id.Ordered) (hparams : ∀ v ∈ r.params, v.Ordered) :
    IsRequest (Json.arrange (.obj r.fields)).field? { r with params := unlessNull r.params } := by
  have hnames : (r.fields.map Prod.fst).Nodup := by
    cases hp : r.params <;> simp [Request.fields, Json.optField, hp]
  constructor
  · rw [Json.field?_arrange hnames]
    simp [Request.fields, Json.arrange]
  · rw [Json.field?_arrange hnames]
    simp [Request.fields, List.lookup_cons, Json.arrange_of_ordered hid]
  · rw [Json.field?_arrange hnames]
    simp [Request.fields, List.lookup_cons, Json.arrange]
  · rw [Json.field?_arrange hnames]
    simp [Request.fields, List.lookup_cons, lookup_optField, map_arrange_of_ordered hparams]

lemma isNotification_arrange {n : Notification} (hparams : ∀ v ∈ n.params, v.Ordered) :
    IsNotification (Json.arrange (.obj n.fields)).field? { n with params := unlessNull n.params } ∧
      (Json.arrange (.obj n.fields)).field? "id" = none := by
  have hnames : (n.fields.map Prod.fst).Nodup := by
    cases hp : n.params <;> simp [Notification.fields, Json.optField, hp]
  refine ⟨?_, ?_⟩
  · constructor
    · rw [Json.field?_arrange hnames]
      simp [Notification.fields, Json.arrange]
    · rw [Json.field?_arrange hnames]
      simp [Notification.fields, List.lookup_cons, Json.arrange]
    · rw [Json.field?_arrange hnames]
      simp [Notification.fields, List.lookup_cons, lookup_optField, map_arrange_of_ordered hparams]
  · rw [Json.field?_arrange hnames]
    simp [Notification.fields, List.lookup_cons, lookup_optField]

lemma isRefusalValue_arrange {e : Refusal} (hfits : Fits32 e.code)
    (hdata : ∀ v ∈ e.data, v.Ordered) : IsRefusalValue e.toJson.arrange e.settled := by
  have hnames : (e.fields.map Prod.fst).Nodup := by
    cases hd : e.data <;> simp [Refusal.fields, Json.optField, hd]
  suffices hmembers : IsRefusal (Json.arrange (.obj e.fields)).field? e.settled from
    (exists_members_obj_iff (p := (IsRefusal · e.settled))).2 hmembers
  refine ⟨?_, hfits, ?_, ?_⟩
  · rw [Json.field?_arrange hnames]
    simp [Refusal.fields, Refusal.settled, Json.arrange]
  · rw [Json.field?_arrange hnames]
    simp [Refusal.fields, Refusal.settled, List.lookup_cons, Json.arrange]
  · rw [Json.field?_arrange hnames]
    simp [Refusal.fields, Refusal.settled, List.lookup_cons, lookup_optField,
      map_arrange_of_ordered hdata]

lemma unlessNull_toJson_arrange (e : Refusal) :
    unlessNull (some e.toJson.arrange) = some e.toJson.arrange := rfl

lemma nodup_fields_response (r : Response) : (r.fields.map Prod.fst).Nodup := by
  cases hr : r.result <;> cases he : r.error <;> simp [Response.fields, Json.optField, hr, he]

lemma isResponse_arrange {r : Response} (hid : r.id.Ordered) (hresult : ∀ v ∈ r.result, v.Ordered)
    (herror : ∀ e ∈ r.error, Fits32 e.code ∧ ∀ v ∈ e.data, v.Ordered) :
    IsResponse (Json.arrange (.obj r.fields)).field?
        { r with result := unlessNull r.result, error := r.error.map Refusal.settled } ∧
      (Json.arrange (.obj r.fields)).field? "method" = none := by
  have hnames := nodup_fields_response r
  refine ⟨⟨?_, ?_, ?_, ?_⟩, ?_⟩
  · rw [Json.field?_arrange hnames]
    simp [Response.fields, Json.arrange]
  · rw [Json.field?_arrange hnames]
    simp [Response.fields, List.lookup_cons, Json.arrange_of_ordered hid]
  · rw [Json.field?_arrange hnames]
    simp [Response.fields, List.lookup_cons, List.lookup_append, lookup_optField,
      map_arrange_of_ordered hresult]
  · have hlookup : r.fields.lookup "error" = r.error.map Refusal.toJson := by
      simp [Response.fields, List.lookup_cons, List.lookup_append, lookup_optField]
    rw [Json.field?_arrange hnames, hlookup]
    cases he : r.error with
    | none => exact .none
    | some e =>
      obtain ⟨hfits, hdata⟩ := herror e he
      rw [Option.map_some, Option.map_some, Option.map_some, unlessNull_toJson_arrange]
      exact .some (isRefusalValue_arrange hfits hdata)
  · rw [Json.field?_arrange hnames]
    simp [Response.fields, List.lookup_cons, List.lookup_append, lookup_optField]

namespace Inbound

/-! ## The values a message carries -/

variable {p : Json → Prop}

lemma forall_payloads_request {r : Request} :
    (∀ v ∈ (request r).payloads, p v) ↔ p r.id ∧ ∀ v ∈ r.params, p v := by
  cases hp : r.params <;> simp [payloads, hp]

lemma forall_payloads_notification {n : Notification} :
    (∀ v ∈ (notification n).payloads, p v) ↔ ∀ v ∈ n.params, p v := by
  cases hp : n.params <;> simp [payloads, hp]

lemma forall_payloads_response {r : Response} : (∀ v ∈ (response r).payloads, p v)
    ↔ p r.id ∧ (∀ v ∈ r.result, p v) ∧ ∀ e ∈ r.error, ∀ v ∈ e.data, p v := by
  cases hr : r.result <;> cases he : r.error with
  | none => simp [payloads, hr, he]
  | some e => cases hd : e.data <;> simp [payloads, hr, he, hd]

/-- The value that was written is the settled message. -/
lemma isMessage_arrange {m : Inbound} (hordered : ∀ v ∈ m.payloads, v.Ordered)
    (hfits : ∀ e ∈ m.refusal?, Fits32 e.code) : IsMessage m.value.arrange m.settled := by
  cases m with
  | request r =>
    obtain ⟨hid, hparams⟩ := forall_payloads_request.1 hordered
    have hr := isRequest_arrange hid hparams
    rw [settled]
    split
    next hnull =>
      refine ⟨⟨hr.jsonrpc, hr.method, hr.params⟩, ?_⟩
      simp [value, hr.id, unlessNull, hnull]
    next hnull => exact ⟨hr, by simpa using hnull⟩
  | notification n =>
    obtain ⟨hn, hid⟩ := isNotification_arrange (forall_payloads_notification.1 hordered)
    exact ⟨hn, by rw [value, hid]; rfl⟩
  | response r =>
    obtain ⟨hid, hresult, hdata⟩ := forall_payloads_response.1 hordered
    obtain ⟨hr, hmethod⟩ := isResponse_arrange hid hresult fun e he => ⟨hfits e he, hdata e he⟩
    exact ⟨hmethod, _, rfl, hr⟩

lemma legible_int_of_fits32 {n : Int} (h : Fits32 n) : Json.Legible (.int n) := by
  have hlow : (-Decimal.limit63 : Int) ≤ -Decimal.limit31 := by decide
  have hhigh : (Decimal.limit31 : Int) ≤ Decimal.limit64 := by decide
  exact ⟨hlow.trans h.1, h.2.trans_le hhigh⟩

/-! ## Fields of written messages -/

lemma forall_fields_request {r : Request} : (∀ f ∈ r.fields, p f.2)
    ↔ p (.str r.jsonrpc) ∧ p r.id ∧ p (.str r.method) ∧ ∀ v ∈ r.params, p v := by
  simp only [Request.fields, List.forall_mem_cons, forall_mem_optField]

lemma forall_fields_notification {n : Notification} : (∀ f ∈ n.fields, p f.2)
    ↔ p (.str n.jsonrpc) ∧ p (.str n.method) ∧ ∀ v ∈ n.params, p v := by
  simp only [Notification.fields, List.forall_mem_cons, forall_mem_optField]

lemma forall_fields_refusal {e : Refusal} : (∀ f ∈ e.fields, p f.2)
    ↔ p (.int e.code) ∧ p (.str e.message) ∧ ∀ v ∈ e.data, p v := by
  simp only [Refusal.fields, List.forall_mem_cons, forall_mem_optField]

lemma forall_fields_response {r : Response} : (∀ f ∈ r.fields, p f.2)
    ↔ p (.str r.jsonrpc) ∧ p r.id ∧ (∀ v ∈ r.result, p v) ∧ ∀ e ∈ r.error, p e.toJson := by
  simp only [Response.fields, List.forall_mem_cons, List.forall_mem_append, forall_mem_optField]
  cases r.error <;> simp

/-- The numbers of a written message can be read back if those it carries can. -/
lemma legible_value {m : Inbound} (hlegible : ∀ v ∈ m.payloads, v.Legible)
    (hfits : ∀ e ∈ m.refusal?, Fits32 e.code) : m.value.Legible := by
  cases m with
  | request r =>
    obtain ⟨hid, hparams⟩ := forall_payloads_request.1 hlegible
    exact Json.everywhere_obj.2 ⟨trivial, forall_fields_request.2 ⟨trivial, hid, trivial, hparams⟩⟩
  | notification n =>
    have hparams := forall_payloads_notification.1 hlegible
    exact Json.everywhere_obj.2 ⟨trivial, forall_fields_notification.2 ⟨trivial, trivial, hparams⟩⟩
  | response r =>
    obtain ⟨hid, hresult, hdata⟩ := forall_payloads_response.1 hlegible
    refine Json.everywhere_obj.2
      ⟨trivial, forall_fields_response.2 ⟨trivial, hid, hresult, fun e he => ?_⟩⟩
    exact Json.everywhere_obj.2 ⟨trivial, forall_fields_refusal.2
      ⟨legible_int_of_fits32 (hfits e he), trivial, hdata e he⟩⟩

/-! ## Settled messages -/

lemma forall_mem_unlessNull {v : Option Json} (h : ∀ w ∈ v, p w) : ∀ w ∈ unlessNull v, p w :=
  fun w hw => h w (Shape.unlessNull_eq_some_iff.1 hw).1

lemma unlessNull_unlessNull (v : Option Json) : unlessNull (unlessNull v) = unlessNull v := by
  simp [unlessNull, Option.filter_filter]

/-- A settled message stays as it is. -/
lemma settled_settled (m : Inbound) : m.settled.settled = m.settled := by
  cases m with
  | request r =>
    cases hnull : r.id.isNull <;> simp [settled, hnull, unlessNull_unlessNull]
  | notification n => simp [settled, unlessNull_unlessNull]
  | response r =>
    have herror : Refusal.settled ∘ Refusal.settled = Refusal.settled := by
      funext e
      simp [Refusal.settled, unlessNull_unlessNull]
    simp [settled, unlessNull_unlessNull, herror]

/-- A settled message carries no other values. -/
lemma forall_payloads_settled {m : Inbound} (h : ∀ v ∈ m.payloads, p v) :
    ∀ v ∈ m.settled.payloads, p v := by
  cases m with
  | request r =>
    obtain ⟨hid, hparams⟩ := forall_payloads_request.1 h
    rw [settled]
    split
    · exact forall_payloads_notification.2 (forall_mem_unlessNull hparams)
    · exact forall_payloads_request.2 ⟨hid, forall_mem_unlessNull hparams⟩
  | notification n =>
    exact forall_payloads_notification.2
      (forall_mem_unlessNull (forall_payloads_notification.1 h))
  | response r =>
    obtain ⟨hid, hresult, hdata⟩ := forall_payloads_response.1 h
    refine forall_payloads_response.2 ⟨hid, forall_mem_unlessNull hresult, fun e he => ?_⟩
    obtain ⟨e', he', rfl⟩ := Option.map_eq_some_iff.1 he
    exact forall_mem_unlessNull (hdata e' he')

lemma depth_obj_le {fields others : List (String × Json)}
    (h : ∀ d, (∀ f ∈ others, f.2.depth ≤ d) → ∀ f ∈ fields, f.2.depth ≤ d) :
    (Json.obj fields).depth ≤ (Json.obj others).depth := by
  have hothers := Json.depthFields_le_iff.1 (le_refl (Json.depthFields others))
  exact Nat.succ_le_succ (Json.depthFields_le_iff.2 (h _ hothers))

lemma depth_toJson_settled_le (e : Refusal) : e.settled.toJson.depth ≤ e.toJson.depth := by
  refine depth_obj_le fun d hd => ?_
  obtain ⟨hcode, hmessage, hdata⟩ := (forall_fields_refusal (p := (·.depth ≤ d))).1 hd
  exact (forall_fields_refusal (p := (·.depth ≤ d))).2
    ⟨hcode, hmessage, forall_mem_unlessNull hdata⟩

/-- A settled message is nested no deeper. -/
lemma depth_settled_le (m : Inbound) : m.settled.value.depth ≤ m.value.depth := by
  cases m with
  | request r =>
    rw [settled]
    split
    all_goals
      refine depth_obj_le fun d hd => ?_
      obtain ⟨hjsonrpc, hid, hmethod, hparams⟩ := (forall_fields_request (p := (·.depth ≤ d))).1 hd
    · exact (forall_fields_notification (p := (·.depth ≤ d))).2
        ⟨hjsonrpc, hmethod, forall_mem_unlessNull hparams⟩
    · exact (forall_fields_request (p := (·.depth ≤ d))).2
        ⟨hjsonrpc, hid, hmethod, forall_mem_unlessNull hparams⟩
  | notification n =>
    refine depth_obj_le fun d hd => ?_
    obtain ⟨hjsonrpc, hmethod, hparams⟩ := (forall_fields_notification (p := (·.depth ≤ d))).1 hd
    exact (forall_fields_notification (p := (·.depth ≤ d))).2
      ⟨hjsonrpc, hmethod, forall_mem_unlessNull hparams⟩
  | response r =>
    refine depth_obj_le fun d hd => ?_
    obtain ⟨hjsonrpc, hid, hresult, herror⟩ := (forall_fields_response (p := (·.depth ≤ d))).1 hd
    refine (forall_fields_response (p := (·.depth ≤ d))).2
      ⟨hjsonrpc, hid, forall_mem_unlessNull hresult, fun e he => ?_⟩
    obtain ⟨e', he', rfl⟩ := Option.map_eq_some_iff.1 he
    exact (depth_toJson_settled_le e').trans (herror e' he')

lemma Readable.settled {m : Inbound} (h : m.Readable) : m.settled.Readable := by
  refine ⟨forall_payloads_settled h.ordered, forall_payloads_settled h.legible, ?_,
    (depth_settled_le m).trans h.shallow⟩
  cases m with
  | request r =>
    rw [Inbound.settled]
    split <;> exact fun e he => by cases he
  | notification n => exact fun e he => by cases he
  | response r =>
    intro e he
    obtain ⟨e', he', rfl⟩ := Option.map_eq_some_iff.1 he
    exact h.fits e' he'

/-- The text of a message is its value, in order. -/
lemma Readable.parse_eq {m : Inbound} (h : m.Readable) :
    Json.parse m.text = .ok m.value.arrange := by
  rw [text_eq]
  exact Json.parse_write (legible_value h.legible h.fits) h.shallow

lemma Readable.read_eq {m : Inbound} (h : m.Readable) : read m.text = .ok m.settled :=
  (read_eq_ok_iff h.parse_eq _).2 (isMessage_arrange h.ordered h.fits)

/-- **A message survives being sent.**  It is read from its text as settled, and a settled message
as itself. -/
theorem read_text {m : Inbound} (h : m.Readable) :
    read m.text = .ok m.settled ∧ read m.settled.text = .ok m.settled := by
  refine ⟨h.read_eq, ?_⟩
  rw [h.settled.read_eq, settled_settled]

/-- An answer with a nested id, a null result, and a refusal whose message has to be escaped. -/
theorem read_text_escaped :
    let m : Inbound := .response
      ⟨"2.0", .obj [("\"", .arr [.real ⟨true, 7205759403792794, -56⟩]), ("a", .int (-1))],
        some .null, some ⟨-2147483648, "\\\n\u001F\u20AC😀", some (.obj [])⟩⟩
    m.Readable ∧ read m.text = .ok m.settled ∧ read m.settled.text = .ok m.settled := by
  intro m
  have h : m.Readable := by decide +kernel
  exact ⟨h, read_text h⟩

end Inbound

end ServerLink.Rpc
