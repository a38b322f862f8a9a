import ServerLink.Text.Decimal

/-!
# Durations

* `Duration` — a length of time in whole nanoseconds.
* `Duration.text` — the form shown in messages: seconds, milliseconds, microseconds or nanoseconds,
  whichever is the largest that is not zero, with as many decimals as the value needs.
-/

namespace ServerLink

/-- A length of time. -/
structure Duration where
  nanoseconds : Nat
deriving DecidableEq, Repr

namespace Duration

/-- How many nanoseconds a second has. -/
def perSecond : Nat := 1000000000

/-- A number of seconds and nanoseconds. -/
def ofParts (seconds nanoseconds : Nat) : Duration := ⟨seconds * perSecond + nanoseconds⟩

/-- A number of seconds. -/
def ofSeconds (n : Nat) : Duration := ofParts n 0

/-- A number of milliseconds. -/
def ofMillis (n : Nat) : Duration := ⟨n * 1000000⟩

/-- The whole seconds. -/
def seconds (d : Duration) : Nat := d.nanoseconds / perSecond

/-- The nanoseconds after the whole seconds. -/
def rest (d : Duration) : Nat := d.nanoseconds % perSecond

/-- Whether the duration is nothing. -/
def isZero (d : Duration) : Bool := d.nanoseconds == 0

/-- Decimals after a point, without the zeros at their end; no point when none is left. -/
def decimals (width n : Nat) : String :=
  let digits := ((Decimal.pad width n).reverse.dropWhile (· == '0')).reverse
  if digits.isEmpty then "" else "." ++ String.ofList digits

/-- The form shown in messages. -/
def text (d : Duration) : String :=
  let n := d.nanoseconds
  let whole (width : Nat) (unit : String) :=
    Decimal.ofNat (n / Nat.pow 10 width) ++ decimals width (n % Nat.pow 10 width) ++ unit
  if perSecond ≤ n then whole 9 "s"
  else if 1000000 ≤ n then whole 6 "ms"
  else if 1000 ≤ n then whole 3 "µs"
  else Decimal.ofNat n ++ "ns"

end Duration

end ServerLink
