import ServerLink.Number.Binary

/-!
# JSON values

* `Json` — a value.  The fields of an object stand in ascending order of their names, each once.
* `Json.insertField` — puts a field in its place; a later value for a name replaces an earlier one.
* `Json.field?` and the other readers — what is at a name, or what a value is.
-/

namespace ServerLink

/-- A JSON value.  Whole numbers are kept exactly; any other number is the binary number nearest
to it. -/
inductive Json where
  | null
  | bool (b : Bool)
  | int (n : Int)
  | real (x : Binary)
  | str (s : String)
  | arr (items : List Json)
  | obj (fields : List (String × Json))
deriving Inhabited, Repr

namespace Json

/-- Puts a field among fields in ascending order of their names. -/
def insertField (name : String) (value : Json) : List (String × Json) → List (String × Json)
  | [] => [(name, value)]
  | (n, v) :: rest =>
    if name = n then (name, value) :: rest
    else if name < n then (name, value) :: (n, v) :: rest
    else (n, v) :: insertField name value rest

/-- An object with the given fields, the last of each name. -/
def ofFields (fields : List (String × Json)) : Json :=
  .obj (fields.foldl (fun acc f => insertField f.1 f.2 acc) [])

/-- The value at a name of an object. -/
def field? : Json → String → Option Json
  | .obj fields, name => fields.lookup name
  | _, _ => none

/-- The text of a text value. -/
def str? : Json → Option String
  | .str s => some s
  | _ => none

/-- The items of a list value. -/
def arr? : Json → Option (List Json)
  | .arr items => some items
  | _ => none

/-- The number of a whole, non-negative number of 64 bits. -/
def nat64? : Json → Option Nat
  | .int n => if 0 ≤ n then some n.toNat else none
  | _ => none

/-- Whether the value is null. -/
def isNull : Json → Bool
  | .null => true
  | _ => false

/-- An optional value as a field: nothing where there is none. -/
def optField (name : String) : Option Json → List (String × Json)
  | none => []
  | some v => [(name, v)]

/-! ## Equality -/

mutual
/-- Equality of values; objects are equal when they hold the same fields in the same order. -/
def same : Json → Json → Bool
  | .null, .null => true
  | .bool a, .bool b => a == b
  | .int a, .int b => a == b
  | .real a, .real b => a == b
  | .str a, .str b => a == b
  | .arr a, .arr b => sameItems a b
  | .obj a, .obj b => sameFields a b
  | _, _ => false
/-- Equality of lists of values. -/
def sameItems : List Json → List Json → Bool
  | [], [] => true
  | a :: as, b :: bs => same a b && sameItems as bs
  | _, _ => false
/-- Equality of lists of fields. -/
def sameFields : List (String × Json) → List (String × Json) → Bool
  | [], [] => true
  | (n, a) :: as, (m, b) :: bs => n == m && same a b && sameFields as bs
  | _, _ => false
end

end Json

end ServerLink
