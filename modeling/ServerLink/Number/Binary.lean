/-!
# Binary floating-point numbers, exactly

A finite number of the 64-bit format is a sign and a product `significand · 2 ^ exponent`.  All
arithmetic here is on natural numbers: a result is first an exact fraction and then rounded once,
to the nearest representable number, a tie going to the even significand.

* `Binary` — a finite number, in the one form with the largest possible significand.
* `Binary.round?` — the number nearest to a fraction; none where that is beyond the range.
* `Binary.ofNat?`, `Binary.mulPower?`, `Binary.divPower` — the operations the JSON reader needs.
-/

namespace ServerLink

/-- A finite number of the 64-bit format: `± significand · 2 ^ exponent`, with
`significand < 2 ^ 53` and `-1074 ≤ exponent`. -/
structure Binary where
  negative : Bool
  significand : Nat
  exponent : Int
deriving DecidableEq, Repr, Inhabited

namespace Binary

/-- The least exponent of the format. -/
def leastExponent : Int := -1074

/-- The greatest exponent of a finite number. -/
def greatestExponent : Int := 971

/-- The value of the first of 53 binary digits, which is `2 ^ 52`. -/
def leadingBit : Nat := 4503599627370496

/-- Zero, with a sign. -/
def zero (negative : Bool) : Binary := ⟨negative, 0, leastExponent⟩

/-- Whether the number is a zero of either sign. -/
def isZero (x : Binary) : Bool := x.significand == 0

/-- The fraction `num / den` in units of `2 ^ e`. -/
def scale (num den : Nat) (e : Int) : Nat × Nat :=
  if 0 ≤ e then (num, den * Nat.pow 2 e.toNat) else (num * Nat.pow 2 (-e).toNat, den)

/-- The quotient rounded to the nearest natural number, a tie to the even one. -/
def roundQuotient (num den : Nat) : Nat :=
  let q := num / den
  let r := num % den
  if 2 * r < den then q
  else if den < 2 * r then q + 1
  else if q % 2 = 0 then q else q + 1

/-- The exponent at which `num / den` has 53 binary digits before the point, or the least one. -/
def fittingExponent (num den : Nat) : Int :=
  let guess : Int := (num.log2 : Int) - (den.log2 : Int) - 53
  let fits (e : Int) : Bool :=
    let (a, b) := scale num den e
    a / b < 2 * leadingBit
  let e := if fits guess then guess else if fits (guess + 1) then guess + 1 else guess + 2
  max e leastExponent

/-- The number nearest to `num / den`; none if it is beyond the greatest finite number. -/
def round? (negative : Bool) (num den : Nat) : Option Binary :=
  if num = 0 then some (zero negative)
  else
    let e := fittingExponent num den
    let (a, b) := scale num den e
    let s := roundQuotient a b
    let (s, e) := if s = 2 * leadingBit then (leadingBit, e + 1) else (s, e)
    if greatestExponent < e then none else some ⟨negative, s, e⟩

/-- The number as an exact fraction, without its sign. -/
def fraction (x : Binary) : Nat × Nat :=
  if 0 ≤ x.exponent then (x.significand * Nat.pow 2 x.exponent.toNat, 1)
  else (x.significand, Nat.pow 2 (-x.exponent).toNat)

/-- The number nearest to a natural number. -/
def ofNat? (negative : Bool) (n : Nat) : Option Binary :=
  round? negative n 1

/-- The product with the number nearest to `10 ^ k`. -/
def mulPower? (x : Binary) (k : Nat) : Option Binary := do
  let p ← round? false (Nat.pow 10 k) 1
  let (a, b) := x.fraction
  let (c, d) := p.fraction
  round? x.negative (a * c) (b * d)

/-- The quotient by the number nearest to `10 ^ k`; it cannot leave the range. -/
def divPower (x : Binary) (k : Nat) : Binary :=
  match round? false (Nat.pow 10 k) 1 with
  | none => zero x.negative
  | some p =>
    let (a, b) := x.fraction
    let (c, d) := p.fraction
    (round? x.negative (a * d) (b * c)).getD (zero x.negative)

end Binary

end ServerLink
