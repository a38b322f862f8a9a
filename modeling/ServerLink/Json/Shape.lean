import ServerLink.Json.Value
import ServerLink.Number.Shortest
import ServerLink.Text.Decimal
import ServerLink.Text.Quoted

/-!
# Values read against an expected form

A message is accepted when its JSON value has the expected form.  Reading gives the value back in
**normal form**: fields that the form does not name are dropped, and so are optional fields that
are absent or null.

* `Shape` — the forms: single values, lists, records, and choices.  A record may also be given as
  the list of its fields, a mapping may not.
* `Mismatch`, `Mismatch.message` — the first thing found wrong.
* `Shape.read` — the normal form of a value, or the mismatch.

The fields of a record are examined in the order in which they stand in the object, that is, by
name; only then are absent ones noticed, in the order of the record.
-/

namespace ServerLink

/-- The expected form of a JSON value. -/
inductive Shape where
  | any
  | text
  | truth
  | natural64
  | integer32
  | natural32
  | nothing
  | optional (form : Shape)
  | listOf (form : Shape)
  | record (name : String) (fields : List (String × Shape))
  | mapping (name : String) (fields : List (String × Shape))
  | choice (name : String) (forms : List Shape)

namespace Shape

/-- What is wrong with a value. -/
inductive Mismatch where
  | wrongKind (found : Json) (expected : String)
  | outOfRange (found : Int) (expected : String)
  | missing (field : String)
  | wrongLength (found : Nat) (expected : String)
  | noChoice (name : String)

/-- How a value is named in the wording of a mismatch. -/
def found : Json → String
  | .null => "null"
  | .bool true => "boolean `true`"
  | .bool false => "boolean `false`"
  | .int n => "integer `" ++ Decimal.ofInt n ++ "`"
  | .real x => "floating point `" ++ x.toText ++ "`"
  | .str s => "string " ++ Text.quote s
  | .arr _ => "sequence"
  | .obj _ => "map"

/-- The wording of a mismatch. -/
def Mismatch.message : Mismatch → String
  | .wrongKind v expected => "invalid type: " ++ Shape.found v ++ ", expected " ++ expected
  | .outOfRange n expected =>
    "invalid value: integer `" ++ Decimal.ofInt n ++ "`, expected " ++ expected
  | .missing field => "missing field `" ++ field ++ "`"
  | .wrongLength n expected => "invalid length " ++ Decimal.ofNat n ++ ", expected " ++ expected
  | .noChoice name => "data did not match any variant of untagged enum " ++ name

/-- A whole number within bounds. -/
def readWhole (low high : Int) (expected : String) : Json → Except Mismatch Json
  | .int n => if low ≤ n && n ≤ high then .ok (.int n) else .error (.outOfRange n expected)
  | v => .error (.wrongKind v expected)

/-- Whether a field of this form may be absent. -/
def mayBeAbsent : Shape → Bool
  | optional _ => true
  | _ => false

/-- A field in normal form: an optional field that is null is no field. -/
def keepField (name : String) (form : Shape) (value : Json) : List (String × Json) :=
  if form.mayBeAbsent && value.isNull then [] else [(name, value)]

/-- The fields of a record that have to be there and are not. -/
def firstMissing (fields : List (String × Shape)) (given : List (String × Json)) : Option String :=
  (fields.find? fun (name, form) => !form.mayBeAbsent && (given.lookup name).isNone).map (·.1)

/-- The record of the fields that were kept, unless one is missing. -/
def closeRecord (fields : List (String × Shape)) (given : List (String × Json))
    (kept : Except Mismatch (List (List (String × Json)))) : Except Mismatch Json :=
  match kept with
  | .error m => .error m
  | .ok kept =>
    match firstMissing fields given with
    | some field => .error (.missing field)
    | none => .ok (.obj kept.flatten)

/-- How the wrong number of items for a record is worded. -/
def lengthOf (name : String) (n : Nat) : String :=
  "struct " ++ name ++ " with " ++ Decimal.ofNat n ++ (if n = 1 then " element" else " elements")

mutual
/-- The normal form of a value of the given form. -/
def read : Shape → Json → Except Mismatch Json
  | any, v => .ok v
  | text, v =>
    match v with
    | .str s => .ok (.str s)
    | v => .error (.wrongKind v "a string")
  | truth, v =>
    match v with
    | .bool b => .ok (.bool b)
    | v => .error (.wrongKind v "a boolean")
  | natural64, v => readWhole 0 (Decimal.limit64 - 1) "u64" v
  | integer32, v => readWhole (-Decimal.limit31) (Decimal.limit31 - 1) "i32" v
  | natural32, v => readWhole 0 (Decimal.limit32 - 1) "u32" v
  | nothing, v =>
    match v with
    | .null => .ok .null
    | v => .error (.wrongKind v "unit")
  | optional form, v =>
    match v with
    | .null => .ok .null
    | v => read form v
  | listOf form, v =>
    match v with
    | .arr items => (items.mapM (read form)).map .arr
    | v => .error (.wrongKind v "a sequence")
  | record name fields, v =>
    match v with
    | .obj given => closeRecord fields given (given.mapM fun f => readField fields f.1 f.2)
    | .arr items =>
      -- a list gives the fields in their order; that it is too long shows only behind the last one
      match readRow fields 0 (lengthOf name fields.length) items with
      | .error m => .error m
      | .ok kept =>
        if fields.length < items.length then
          .error (.wrongLength items.length "fewer elements in array")
        else .ok (Json.ofFields kept)
    | v => .error (.wrongKind v ("struct " ++ name))
  | mapping name fields, v =>
    match v with
    | .obj given => closeRecord fields given (given.mapM fun f => readField fields f.1 f.2)
    | v => .error (.wrongKind v ("struct " ++ name))
  | choice name forms, v => readChoice name forms v
/-- A field by its name: none where the record does not name it. -/
def readField : List (String × Shape) → String → Json → Except Mismatch (List (String × Json))
  | [], _, _ => .ok []
  | (name, form) :: rest, given, v =>
    if name = given then (read form v).map (keepField name form)
    else readField rest given v
/-- The fields of a record given as a list of items, from the `index`-th on. -/
def readRow : List (String × Shape) → (index : Nat) → (expected : String) → List Json →
    Except Mismatch (List (String × Json))
  | [], _, _, _ => .ok []
  | _ :: _, index, expected, [] => .error (.wrongLength index expected)
  | (name, form) :: rest, index, expected, v :: items =>
    match read form v with
    | .error m => .error m
    | .ok r =>
      match readRow rest (index + 1) expected items with
      | .error m => .error m
      | .ok kept => .ok (keepField name form r ++ kept)
/-- The first form of a choice that fits. -/
def readChoice (name : String) : List Shape → Json → Except Mismatch Json
  | [], _ => .error (.noChoice name)
  | form :: rest, v =>
    match read form v with
    | .ok r => .ok r
    | .error _ => readChoice name rest v
end

end Shape

end ServerLink
