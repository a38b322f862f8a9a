import ServerLink.Number.Binary

/-!
# The shortest decimal that reads back

A binary number is shown by the fewest decimal digits that lie nearer to it than to any other
number of the format, and of those by the nearest.

* `Interval` — the decimals that read back as the number: the fractions up to halfway to its
  neighbours, the ends included when its significand is even.
* `shortestDigits` — digits and the power of ten of the last one.
* `Binary.toText` — the number as JSON text shows it: positional from `0.00001` up to sixteen
  digits before the point, with a sign and an exponent beyond.
-/

namespace ServerLink

/-- The fractions `num / den` with `low ≤ num / den ≤ high`, over one common denominator; the ends
count when `closed`. -/
structure Interval where
  low : Nat
  middle : Nat
  high : Nat
  den : Nat
  closed : Bool
deriving Repr

namespace Binary

/-- The fractions that round to `x`.  Below a power of two the next number is only half as far
away, except at the least exponent. -/
def interval (x : Binary) : Interval :=
  let near : Bool := x.significand == Binary.leadingBit && leastExponent < x.exponent
  let e := x.exponent - 2
  let closed := x.significand % 2 == 0
  let low := x.significand * 4 - (if near then 1 else 2)
  let middle := x.significand * 4
  let high := x.significand * 4 + 2
  if 0 ≤ e then
    ⟨low * Nat.pow 2 e.toNat, middle * Nat.pow 2 e.toNat, high * Nat.pow 2 e.toNat, 1, closed⟩
  else ⟨low, middle, high, Nat.pow 2 (-e).toNat, closed⟩

end Binary

namespace Interval

/-- Whether `digits · 10 ^ power` lies in the interval. -/
def holds (i : Interval) (digits : Nat) (power : Int) : Bool :=
  let (n, d) := if 0 ≤ power then (digits * Nat.pow 10 power.toNat, 1)
    else (digits, Nat.pow 10 (-power).toNat)
  let n := n * i.den
  if i.closed then i.low * d ≤ n && n ≤ i.high * d else i.low * d < n && n < i.high * d

/-- The two multiples of `10 ^ power` around the middle, the nearer first. -/
def candidates (i : Interval) (power : Int) : List Nat :=
  let (num, den) :=
    if 0 ≤ power then (i.middle, i.den * Nat.pow 10 power.toNat)
    else (i.middle * Nat.pow 10 (-power).toNat, i.den)
  let q := num / den
  let r := num % den
  if 2 * r < den || (2 * r == den && q % 2 == 0) then [q, q + 1] else [q + 1, q]

/-- The power of ten of the leading digit of the middle. -/
def leadingPower (i : Interval) : Int :=
  let digits (n : Nat) : Int := ((Nat.toDigits 10 n).length : Int)
  let guess := digits i.middle - digits i.den
  let (n, d) :=
    if 0 ≤ guess then (i.middle, i.den * Nat.pow 10 guess.toNat)
    else (i.middle * Nat.pow 10 (-guess).toNat, i.den)
  if d ≤ n then guess else guess - 1

/-- Tries ever finer powers of ten, for at most `fuel` digits. -/
def search (i : Interval) : (fuel : Nat) → (power : Int) → Nat × Int
  | 0, power => ((i.candidates power).headD 0, power)
  | fuel + 1, power =>
    match (i.candidates power).find? (fun n => i.holds n power) with
    | some n => (n, power)
    | none => search i fuel (power - 1)

end Interval

/-- Drops zeros from the end of the digits. -/
def dropZeros : (fuel : Nat) → Nat × Int → Nat × Int
  | 0, p => p
  | fuel + 1, (n, power) =>
    if n ≠ 0 ∧ n % 10 = 0 then dropZeros fuel (n / 10, power + 1) else (n, power)

/-- The fewest digits that read back as `x`, and the power of ten of the last one. -/
def shortestDigits (x : Binary) : Nat × Int :=
  if x.isZero then (0, 0)
  else
    let i := x.interval
    dropZeros 20 (i.search 17 i.leadingPower)

/-- Digits and a power of ten as text: positional while the point stands at most sixteen places
after the first digit or four before it, otherwise one digit, the rest after the point, and the
exponent with its sign. -/
def decimalText (digits : Nat) (power : Int) : String :=
  let ds := Nat.toDigits 10 digits
  let point : Int := ds.length + power
  let text : List Char :=
    if 0 ≤ power ∧ point ≤ 16 then ds ++ List.replicate power.toNat '0' ++ ['.', '0']
    else if 0 < point ∧ point ≤ 16 then ds.take point.toNat ++ '.' :: ds.drop point.toNat
    else if -5 < point ∧ point ≤ 0 then
      '0' :: '.' :: List.replicate (-point).toNat '0' ++ ds
    else
      let shown := point - 1
      let exponent := (if shown < 0 then '-' else '+') :: Nat.toDigits 10 shown.natAbs
      let mantissa := match ds with
        | [d] => [d]
        | d :: rest => d :: '.' :: rest
        | [] => []
      mantissa ++ 'e' :: exponent
  String.ofList text

/-- The number as JSON text shows it. -/
def Binary.toText (x : Binary) : String :=
  let (digits, power) := shortestDigits x
  let text := if x.isZero then "0.0" else decimalText digits power
  if x.negative then "-" ++ text else text

end ServerLink
