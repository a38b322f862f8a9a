/-!
# Names in other scripts

A label of a host name with letters beyond ASCII is written in ASCII: its ASCII letters come first,
then a text that says which other letters belong where.

* `Punycode.encode` — that text with the ASCII letters in front.
* `Punycode.fold` — the letter that stands for a letter in names: small ones for capitals, narrow
  ones for wide ones, nothing for those that are not seen.
* `Punycode.label` — a label as it stands in an address.

The other letters are told in ascending order.  Each number is the way from the place of the letter
before to that of the next one, counted through all letters and all places; its digits are in base
36, and how many of them it takes depends on a **bias** that follows the numbers told so far.
-/

namespace ServerLink.Url.Punycode

/-- The character of a digit. -/
def digit (d : Nat) : Char :=
  if d < 26 then Char.ofNat ('a'.toNat + d) else Char.ofNat ('0'.toNat + (d - 26))

/-- The threshold of a digit: a smaller value ends the number. -/
def threshold (place bias : Nat) : Nat :=
  if place ≤ bias then 1 else if bias + 26 ≤ place then 26 else place - bias

/-- The digits of a number from some place on.  `fuel` bounds how many there are. -/
def digits (bias : Nat) : (fuel place n : Nat) → List Char
  | 0, _, n => [digit n]
  | fuel + 1, place, n =>
    let t := threshold place bias
    if n < t then [digit n]
    else digit (t + (n - t) % (36 - t)) :: digits bias fuel (place + 36) ((n - t) / (36 - t))

/-- Divides a number until it is small, and counts how often.  `fuel` bounds how often. -/
def shrink : (fuel n count : Nat) → Nat × Nat
  | 0, n, count => (n, count)
  | fuel + 1, n, count => if 455 < n then shrink fuel (n / 35) (count + 1) else (n, count)

/-- The bias after a number was told, the first one or a later one, with so many letters told. -/
def adapt (n told : Nat) (isFirst : Bool) : Nat :=
  let n := if isFirst then n / 700 else n / 2
  let n := n + n / told
  let (n, count) := shrink n.log2 n 0
  36 * count + 36 * n / (n + 38)

/-- What has been told: the digits, the way since the last letter, the bias, and how many
letters. -/
structure Telling where
  digits : List Char
  way : Nat
  bias : Nat
  told : Nat

/-- Passes a letter of the label while letters of one kind are told. -/
def Telling.pass (isFirst : Nat → Bool) (letter : Nat) (t : Telling) (c : Char) : Telling :=
  if c.toNat < letter then { t with way := t.way + 1 }
  else if c.toNat = letter then
    { digits := t.digits ++ Punycode.digits t.bias t.way.log2 36 t.way
      way := 0
      bias := adapt t.way (t.told + 1) (isFirst t.told)
      told := t.told + 1 }
  else t

/-- Tells the letters of each kind, in ascending order. -/
def tell (label : List Char) (isFirst : Nat → Bool) : (before : Nat) → List Nat → Telling → Telling
  | _, [], t => t
  | before, letter :: rest, t =>
    let t := { t with way := t.way + (letter - before) * (t.told + 1) }
    let t := label.foldl (Telling.pass isFirst letter) t
    tell label isFirst (letter + 1) rest { t with way := t.way + 1 }

/-- Puts a number into its place among ascending ones, once. -/
def place (n : Nat) : List Nat → List Nat
  | [] => [n]
  | m :: rest => if n < m then n :: m :: rest else if n = m then m :: rest else m :: place n rest

/-- Whether a letter is beyond ASCII. -/
def isOther (c : Char) : Bool := 0x80 ≤ c.toNat

/-- The ASCII letters of a label, and the text that says where the others belong. -/
def encode (label : List Char) : List Char :=
  let plain := label.filter (!isOther ·)
  let others := ((label.filter isOther).map Char.toNat).foldr place []
  let t := tell label (· = plain.length) 0x80 others ⟨[], 0, 72, plain.length⟩
  plain ++ (if plain.isEmpty then [] else ['-']) ++ t.digits

/-! ## Names -/

/-- Whether a letter is the capital of the letter after it. -/
def isPairedCapital (n : Nat) : Bool :=
  ((0x100 ≤ n && n ≤ 0x137 && n != 0x130) || (0x14A ≤ n && n ≤ 0x177) || (0x460 ≤ n && n ≤ 0x481)
      || (0x48A ≤ n && n ≤ 0x4BF) || (0x4D0 ≤ n && n ≤ 0x52F) || (0x1E00 ≤ n && n ≤ 0x1E95)
      || (0x1EA0 ≤ n && n ≤ 0x1EFF)) && n % 2 = 0
    || ((0x139 ≤ n && n ≤ 0x148) || (0x179 ≤ n && n ≤ 0x17E)) && n % 2 = 1

/-- The small letter of a capital. -/
def small (n : Nat) : Nat :=
  if (0xC0 ≤ n && n ≤ 0xDE && n != 0xD7) || (0x391 ≤ n && n ≤ 0x3A9 && n != 0x3A2)
      || (0x410 ≤ n && n ≤ 0x42F) then n + 0x20
  else if 0x400 ≤ n && n ≤ 0x40F then n + 0x50
  else if isPairedCapital n then n + 1
  else n

/-- Whether a letter is not seen. -/
def isUnseen (n : Nat) : Bool :=
  [0xAD, 0x200B, 0x2060, 0xFEFF].contains n || (0xFE00 ≤ n && n ≤ 0xFE0F)

/-- The letters that stand for a letter in names. -/
def fold (c : Char) : List Char :=
  let n := c.toNat
  if n < 0x80 then [if 'A' ≤ c && c ≤ 'Z' then Char.ofNat (n + 0x20) else c]
  else if isUnseen n then []
  else if n = 0x3002 || n = 0xFF0E || n = 0xFF61 then ['.']
  else if 0xFF01 ≤ n && n ≤ 0xFF5E then
    let m := n - 0xFEE0
    [Char.ofNat (if 0x41 ≤ m && m ≤ 0x5A then m + 0x20 else m)]
  else [Char.ofNat (small n)]

/-- Whether a letter stands in no name. -/
def isBarred (c : Char) : Bool :=
  let n := c.toNat
  (0x80 ≤ n && n ≤ 0xA0) || (0x2000 ≤ n && n ≤ 0x200A) || (0x200E ≤ n && n ≤ 0x202F)
    || (0xE000 ≤ n && n ≤ 0xF8FF) || n = 0xFFFD || 0xE0000 ≤ n

/-- A label as it stands in an address. -/
def label (cs : List Char) : List Char :=
  if cs.any isOther then "xn--".toList ++ encode cs else cs

end ServerLink.Url.Punycode
