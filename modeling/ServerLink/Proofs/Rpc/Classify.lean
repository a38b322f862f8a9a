import Mathlib
import ServerLink.Rpc.Message
import ServerLink.Proofs.Json.Record

/-!
# What a text is as a message

Which message a value is, if it is one, can be said by its members alone.

* `IsRequest`, `IsNotification`, `IsResponse` — what the members have to be for each message.
* `IsMessage` — the message that a value is: a method and a live id make a request, a method alone a
  notification, and without a method the members of an answer an answer.  The members of an answer
  may be given in their places, as a list of four; those of its refusal as a list of three.
* **`Inbound.read_classifies`** — reading a text gives just the message that its value is.
-/

namespace ServerLink.Rpc

open Shape (members? unlessNull Fits32 Takes)

variable {member : String → Option Json}

/-! ## Members of messages -/

/-- The members of a request. -/
structure IsRequest (member : String → Option Json) (r : Request) : Prop where
  jsonrpc : member "jsonrpc" = some (.str r.jsonrpc)
  id : member "id" = some r.id
  method : member "method" = some (.str r.method)
  params : r.params = unlessNull (member "params")

/-- The members of a notification. -/
structure IsNotification (member : String → Option Json) (n : Notification) : Prop where
  jsonrpc : member "jsonrpc" = some (.str n.jsonrpc)
  method : member "method" = some (.str n.method)
  params : n.params = unlessNull (member "params")

/-- The members of a refusal. -/
structure IsRefusal (member : String → Option Json) (e : Refusal) : Prop where
  code : member "code" = some (.int e.code)
  fits : Fits32 e.code
  message : member "message" = some (.str e.message)
  data : e.data = unlessNull (member "data")

/-- The value is a refusal. -/
def IsRefusalValue (v : Json) (e : Refusal) : Prop :=
  ∃ given, members? ["code", "message", "data"] v = some given ∧ IsRefusal (given.lookup ·) e

/-- The members of an answer. -/
structure IsResponse (member : String → Option Json) (r : Response) : Prop where
  jsonrpc : member "jsonrpc" = some (.str r.jsonrpc)
  id : member "id" = some r.id
  result : r.result = unlessNull (member "result")
  error : Option.Rel IsRefusalValue (unlessNull (member "error")) r.error

/-- The message that a value is. -/
def IsMessage (v : Json) : Inbound → Prop
  | .request r => IsRequest v.field? r ∧ r.id.isNull = false
  | .notification n => IsNotification v.field? n ∧ unlessNull (v.field? "id") = none
  | .response r => v.field? "method" = none ∧
      ∃ given, members? ["jsonrpc", "id", "result", "error"] v = some given ∧
        IsResponse (given.lookup ·) r

/-! ### Members make one message -/

lemma IsRequest.unique {q r : Request} (hq : IsRequest member q) (hr : IsRequest member r) :
    q = r := by
  have hjsonrpc := hq.jsonrpc.symm.trans hr.jsonrpc
  have hid := hq.id.symm.trans hr.id
  have hmethod := hq.method.symm.trans hr.method
  have hparams := hq.params.trans hr.params.symm
  cases q
  cases r
  simp_all

lemma IsNotification.unique {m n : Notification} (hm : IsNotification member m)
    (hn : IsNotification member n) : m = n := by
  have hjsonrpc := hm.jsonrpc.symm.trans hn.jsonrpc
  have hmethod := hm.method.symm.trans hn.method
  have hparams := hm.params.trans hn.params.symm
  cases m
  cases n
  simp_all

lemma IsRefusal.unique {e f : Refusal} (he : IsRefusal member e) (hf : IsRefusal member f) :
    e = f := by
  have hcode := he.code.symm.trans hf.code
  have hmessage := he.message.symm.trans hf.message
  have hdata := he.data.trans hf.data.symm
  cases e
  cases f
  simp_all

lemma IsRefusalValue.unique {v : Json} {e f : Refusal} (he : IsRefusalValue v e)
    (hf : IsRefusalValue v f) : e = f := by
  obtain ⟨given, hgiven, he⟩ := he
  obtain ⟨given', hgiven', hf⟩ := hf
  obtain rfl : given = given' := by simpa [hgiven] using hgiven'
  exact he.unique hf

lemma IsResponse.unique {q r : Response} (hq : IsResponse member q) (hr : IsResponse member r) :
    q = r := by
  have hjsonrpc := hq.jsonrpc.symm.trans hr.jsonrpc
  have hid := hq.id.symm.trans hr.id
  have hresult := hq.result.trans hr.result.symm
  have herror : q.error = r.error := by
    have hqe := hq.error
    have hre := hr.error
    generalize unlessNull (member "error") = error, q.error = e, r.error = f at hqe hre
    cases hqe with
    | none =>
      cases hre with
      | none => rfl
    | some he =>
      cases hre with
      | some hf => rw [he.unique hf]
  cases q
  cases r
  simp_all

/-! ### Each message against its form -/

lemma read_request_iff {v : Json} (hv : Json.Ordered v) (q : Request) :
    (∃ r, requestShape.read v = .ok r ∧ Request.ofNormal r = q)
      ↔ ∃ given, members? ["jsonrpc", "id", "method", "params"] v = some given ∧
        IsRequest (given.lookup ·) q := by
  refine Shape.exists_read_record_iff (by decide) ?_ ?_ ?_ hv q
  · intro member q _ hq
    simp only [List.forall_mem_cons, List.not_mem_nil, false_implies, implies_true, and_true,
      Shape.takes_text_iff, Shape.takes_any_iff, Shape.takes_optional_any_iff]
    exact ⟨⟨_, _, hq.jsonrpc, rfl⟩, ⟨_, _, hq.id, rfl⟩, ⟨_, _, hq.method, rfl⟩, ⟨_, rfl⟩⟩
  · intro member r _ htaken
    simp only [List.forall_mem_cons, List.not_mem_nil, false_implies, implies_true, and_true,
      Shape.takes_text_iff, Shape.takes_any_iff, Shape.takes_optional_any_iff] at htaken
    obtain ⟨⟨jsonrpc, hj, hj'⟩, ⟨id, hid, hid'⟩, ⟨method, hm, hm'⟩, hparams⟩ := htaken
    constructor <;> simp [Request.ofNormal, textAt, Json.str?, *]
  · exact fun _ _ _ => IsRequest.unique

lemma read_notification_iff {v : Json} (hv : Json.Ordered v) (n : Notification) :
    (∃ r, notificationShape.read v = .ok r ∧ Notification.ofNormal r = n)
      ↔ ∃ given, members? ["jsonrpc", "method", "params"] v = some given ∧
        IsNotification (given.lookup ·) n := by
  refine Shape.exists_read_record_iff (by decide) ?_ ?_ ?_ hv n
  · intro member n _ hn
    simp only [List.forall_mem_cons, List.not_mem_nil, false_implies, implies_true, and_true,
      Shape.takes_text_iff, Shape.takes_optional_any_iff]
    exact ⟨⟨_, _, hn.jsonrpc, rfl⟩, ⟨_, _, hn.method, rfl⟩, ⟨_, rfl⟩⟩
  · intro member r _ htaken
    simp only [List.forall_mem_cons, List.not_mem_nil, false_implies, implies_true, and_true,
      Shape.takes_text_iff, Shape.takes_optional_any_iff] at htaken
    obtain ⟨⟨jsonrpc, hj, hj'⟩, ⟨method, hm, hm'⟩, hparams⟩ := htaken
    constructor <;> simp [Notification.ofNormal, textAt, Json.str?, *]
  · exact fun _ _ _ => IsNotification.unique

lemma read_refusal_iff {v : Json} (hv : Json.Ordered v) (e : Refusal) :
    (∃ r, refusalShape.read v = .ok r ∧ Refusal.ofNormal r = e) ↔ IsRefusalValue v e := by
  refine Shape.exists_read_record_iff (by decide) ?_ ?_ ?_ hv e
  · intro member e _ he
    simp only [List.forall_mem_cons, List.not_mem_nil, false_implies, implies_true, and_true,
      Shape.takes_integer32_iff, Shape.takes_text_iff, Shape.takes_optional_any_iff]
    exact ⟨⟨_, _, he.code, he.fits, rfl⟩, ⟨_, _, he.message, rfl⟩, ⟨_, rfl⟩⟩
  · intro member r _ htaken
    simp only [List.forall_mem_cons, List.not_mem_nil, false_implies, implies_true, and_true,
      Shape.takes_integer32_iff, Shape.takes_text_iff, Shape.takes_optional_any_iff] at htaken
    obtain ⟨⟨code, hc, hfits, hc'⟩, ⟨message, hm, hm'⟩, hdata⟩ := htaken
    constructor <;> simp [Refusal.ofNormal, textAt, numberAt, Json.str?, *]
  · exact fun _ _ _ => IsRefusal.unique

/-- What an optional refusal is taken as, seen as a refusal. -/
lemma rel_of_takes_refusal {kept v : Option Json}
    (hv : ∀ w, v = some w → Json.Ordered w) (h : Takes (.optional refusalShape) v kept) :
    Option.Rel IsRefusalValue (unlessNull v) (kept.map Refusal.ofNormal) := by
  rcases Shape.takes_optional_iff.1 h with ⟨hnone, rfl⟩ | ⟨w, r, hw, hr, rfl⟩
  · rw [hnone]
    exact .none
  · have hnull : r.isNull = false := Shape.isNull_of_read_record (by decide) hr
    have hkept : unlessNull (some r) = some r := Shape.unlessNull_eq_some_iff.2 ⟨rfl, hnull⟩
    rw [hw, hkept]
    exact .some ((read_refusal_iff (hv w (Shape.unlessNull_eq_some_iff.1 hw).1) _).1 ⟨r, hr, rfl⟩)

lemma takes_refusal_of_rel {v : Option Json} {error : Option Refusal}
    (hv : ∀ w, v = some w → Json.Ordered w) (h : Option.Rel IsRefusalValue (unlessNull v) error) :
    ∃ kept, Takes (.optional refusalShape) v kept := by
  simp only [Shape.takes_optional_iff]
  cases herror : unlessNull v with
  | none => exact ⟨none, .inl ⟨rfl, rfl⟩⟩
  | some w =>
    rw [herror] at h
    cases h with
    | some he =>
      obtain ⟨r, hr, -⟩ :=
        (read_refusal_iff (hv w (Shape.unlessNull_eq_some_iff.1 herror).1) _).2 he
      exact ⟨_, .inr ⟨w, r, rfl, hr, rfl⟩⟩

lemma read_response_iff {v : Json} (hv : Json.Ordered v) (q : Response) :
    (∃ r, responseShape.read v = .ok r ∧ Response.ofNormal r = q)
      ↔ ∃ given, members? ["jsonrpc", "id", "result", "error"] v = some given ∧
        IsResponse (given.lookup ·) q := by
  refine Shape.exists_read_record_iff (by decide) ?_ ?_ ?_ hv q
  · intro member q hordered hq
    simp only [List.forall_mem_cons, List.not_mem_nil, false_implies, implies_true, and_true,
      Shape.takes_text_iff, Shape.takes_any_iff, Shape.takes_optional_any_iff]
    exact ⟨⟨_, _, hq.jsonrpc, rfl⟩, ⟨_, _, hq.id, rfl⟩, ⟨_, rfl⟩,
      takes_refusal_of_rel (hordered "error") hq.error⟩
  · intro member r hordered htaken
    simp only [List.forall_mem_cons, List.not_mem_nil, false_implies, implies_true, and_true,
      Shape.takes_text_iff, Shape.takes_any_iff, Shape.takes_optional_any_iff] at htaken
    obtain ⟨⟨jsonrpc, hj, hj'⟩, ⟨id, hid, hid'⟩, hresult, herror⟩ := htaken
    have hrefusal := rel_of_takes_refusal (hordered "error") herror
    constructor <;> simp [Response.ofNormal, textAt, Json.str?, *]
  · exact fun _ _ _ => IsResponse.unique

/-! ## Classification -/

lemma exists_obj_of_field? {v w : Json} {name : String} (h : v.field? name = some w) :
    ∃ given, v = .obj given := by
  cases v with
  | obj given => exact ⟨given, rfl⟩
  | _ => cases h

lemma map_eq_ok_iff {α β ε : Type} {f : α → β} {e : Except ε α} {b : β} :
    e.map f = .ok b ↔ ∃ a, e = .ok a ∧ f a = b := by
  cases e <;> simp [Except.map]

lemma exists_members_obj_iff {names : List String} {given : List (String × Json)}
    {p : (String → Option Json) → Prop} :
    (∃ given', members? names (.obj given) = some given' ∧ p (given'.lookup ·))
      ↔ p (Json.obj given).field? := by
  constructor
  · rintro ⟨_, ⟨⟩, h⟩
    exact h
  · exact fun h => ⟨given, rfl, h⟩

/-- Sorting a value by its fields gives just the message that it is. -/
lemma ofJson_eq_ok_iff {v : Json} (hv : Json.Ordered v) (m : Inbound) :
    Inbound.ofJson v = .ok m ↔ IsMessage v m := by
  have hlive : (v.field? "id").any (!·.isNull) = (unlessNull (v.field? "id")).isSome := by
    cases hid : v.field? "id" with
    | none => rfl
    | some id => cases hnull : id.isNull <;> simp [unlessNull, hnull]
  rw [Inbound.ofJson, hlive]
  -- a value with a member is an object, so only without a method can it be a list
  cases hmethod : v.field? "method" with
  | none =>
    simp only [Option.isSome_none, Bool.false_and, Bool.false_eq_true, if_false, map_eq_ok_iff,
      Function.comp_apply]
    cases m with
    | request q =>
      simp only [reduceCtorEq, and_false, exists_false, false_iff]
      exact fun h => by simpa [hmethod] using h.1.method
    | notification n =>
      simp only [reduceCtorEq, and_false, exists_false, false_iff]
      exact fun h => by simpa [hmethod] using h.1.method
    | response q =>
      simp only [Inbound.response.injEq, read_response_iff hv, IsMessage, hmethod, true_and]
  | some method =>
    obtain ⟨given, rfl⟩ := exists_obj_of_field? hmethod
    cases hid : unlessNull ((Json.obj given).field? "id") with
    | none =>
      simp only [Option.isSome_some, Option.isSome_none, Bool.and_false, Bool.false_eq_true,
        if_false, if_true, map_eq_ok_iff, Function.comp_apply]
      cases m with
      | request q =>
        simp only [reduceCtorEq, and_false, exists_false, false_iff]
        rintro ⟨hq, hnull⟩
        simp [Shape.unlessNull_eq_some_iff.2 ⟨hq.id, hnull⟩] at hid
      | notification n =>
        simp only [Inbound.notification.injEq, read_notification_iff hv, IsMessage, hid, and_true,
          exists_members_obj_iff (p := (IsNotification · n))]
      | response q =>
        simp only [reduceCtorEq, and_false, exists_false, false_iff]
        exact fun h => by simp [IsMessage, hmethod] at h
    | some id =>
      obtain ⟨hfield, hnull⟩ := Shape.unlessNull_eq_some_iff.1 hid
      simp only [Option.isSome_some, Bool.and_self, if_true, map_eq_ok_iff, Function.comp_apply]
      cases m with
      | request q =>
        simp only [Inbound.request.injEq, read_request_iff hv, IsMessage,
          exists_members_obj_iff (p := (IsRequest · q))]
        refine ⟨fun hq => ⟨hq, ?_⟩, And.left⟩
        obtain rfl : id = q.id := by simpa [hfield] using hq.id
        exact hnull
      | notification n =>
        simp only [reduceCtorEq, and_false, exists_false, false_iff]
        exact fun h => by simp [IsMessage, hid] at h
      | response q =>
        simp only [reduceCtorEq, and_false, exists_false, false_iff]
        exact fun h => by simp [IsMessage, hmethod] at h

/-- What reading makes of a text that is a value. -/
lemma Inbound.read_eq_ok_iff {text : String} {v : Json} (h : Json.parse text = .ok v)
    (m : Inbound) : Inbound.read text = .ok m ↔ IsMessage v m := by
  rw [← ofJson_eq_ok_iff (Json.ordered_of_parse h) m]
  cases hm : Inbound.ofJson v <;> simp [Inbound.read, h, hm]

/-- **Reading a text gives just the message that its value is.**  A text that is no value is
unreadable; one whose value is no message is refused as such. -/
theorem Inbound.read_classifies (text : String) :
    match Json.parse text with
    | .error fault => Inbound.read text = .error (.unreadable fault)
    | .ok v => (∀ m, Inbound.read text = .ok m ↔ IsMessage v m) ∧
        ((∀ m, ¬ IsMessage v m) → ∃ why, Inbound.read text = .error (.badMessage why)) := by
  split
  next fault h => rw [Inbound.read, h]
  next v h =>
    refine ⟨Inbound.read_eq_ok_iff h, fun hnone => ?_⟩
    cases hm : Inbound.ofJson v with
    | error mismatch => exact ⟨mismatch.message, by simp only [Inbound.read, h, hm]⟩
    | ok m => exact absurd ((ofJson_eq_ok_iff (Json.ordered_of_parse h) m).1 hm) (hnone m)

/-- A list of four items is read as an answer, though it is no object and has no id. -/
theorem list_read_as_response :
    (∃ items, Json.parse "[\"2.0\",7,null,null]" = .ok (.arr items)) ∧
      ∃ r, Inbound.read "[\"2.0\",7,null,null]" = .ok (.response r) :=
  ⟨⟨[.str "2.0", .int 7, .null, .null], rfl⟩, ⟨⟨"2.0", .int 7, none, none⟩, rfl⟩⟩

end ServerLink.Rpc
