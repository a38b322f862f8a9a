/-!
# Decimal numbers as text

* `Decimal.ofNat` — the digits of a number, the form in which every count is printed.
* `Decimal.natBelow?` — reads an optional plus sign and digits, below a bound.
* `Decimal.pad` — digits with leading zeros.
* `limit31`, `limit32`, `limit63`, `limit64` — the bounds of numbers that fit into so many bits.
-/

namespace ServerLink.Decimal

/-- The numbers below it fit into 31 bits. -/
def limit31 : Nat := 2147483648

/-- The numbers below it fit into 32 bits. -/
def limit32 : Nat := 4294967296

/-- The numbers below it fit into 63 bits. -/
def limit63 : Nat := 9223372036854775808

/-- The numbers below it fit into 64 bits. -/
def limit64 : Nat := 18446744073709551616

/-- The value of a digit. -/
def digit? (c : Char) : Option Nat :=
  if '0' ≤ c ∧ c ≤ '9' then some (c.toNat - 48) else none

/-- Digits of a number below a power of ten, most significant first. -/
def pad (width n : Nat) : List Char :=
  let digits := Nat.toDigits 10 n
  List.replicate (width - digits.length) '0' ++ digits

/-- The digits of a number. -/
def ofNat (n : Nat) : String :=
  String.ofList (Nat.toDigits 10 n)

/-- The digits of a whole number, after its sign. -/
def ofInt : Int → String
  | .ofNat n => ofNat n
  | .negSucc n => "-" ++ ofNat (n + 1)

/-- The value of a run of digits, with the digits read before it. -/
def value : Nat → List Char → Option Nat
  | n, [] => some n
  | n, c :: rest =>
    match digit? c with
    | some d => value (n * 10 + d) rest
    | none => none

/-- Reads an optional `+` and one or more digits that stand for a number below `bound`. -/
def natBelow? (bound : Nat) (cs : List Char) : Option Nat :=
  let digits := match cs with
    | '+' :: rest => rest
    | _ => cs
  match digits with
  | [] => none
  | _ =>
    match value 0 digits with
    | some n => if n < bound then some n else none
    | none => none

end ServerLink.Decimal
