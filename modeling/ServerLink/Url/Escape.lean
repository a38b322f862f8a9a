import ServerLink.Text.Utf8

/-!
# Percent escapes

Each part of an address has a set of characters that are written as `%` and two digits of base
sixteen, byte by byte.  Characters beyond ASCII and controls are in every set.

* `Escape.Set` and the sets of the parts, each built on the one before.
* `Escape.bytes`, `Escape.text` — a run of bytes or a text with its escapes.
* `Escape.undo` — the bytes that escapes stand for.
-/

namespace ServerLink.Escape

/-- Characters to escape beside controls and those beyond ASCII. -/
abbrev Set := List Char

/-- Controls only: addresses without a hierarchy. -/
def controls : Set := []

/-- What follows `#`. -/
def fragment : Set := [' ', '"', '<', '>', '\x60']

/-- What follows `?`. -/
def query : Set := [' ', '"', '#', '<', '>']

/-- What follows `?` where the scheme is one of the web or `file`. -/
def webQuery : Set := '\'' :: query

/-- A path with its slashes. -/
def path : Set := fragment ++ ['#', '?', '\x7b', '\x7d']

/-- What stands before the `@` of an authority. -/
def user : Set := path ++ ['/', ':', ';', '=', '@', '[', '\\', ']', '^', '|']

/-- One segment of the path of a file. -/
def segment : Set := path ++ ['/', '%', '\\']

/-- A digit of base sixteen in upper case. -/
def hexDigit (n : Nat) : Char :=
  if n < 10 then Char.ofNat (48 + n) else Char.ofNat (55 + n)

/-- Whether a byte is escaped. -/
def isEscaped (set : Set) (b : UInt8) : Bool :=
  b < 0x20 || 0x7F ≤ b || set.contains (Char.ofNat b.toNat)

/-- One byte, escaped or as it is. -/
def byte (set : Set) (b : UInt8) : List Char :=
  if isEscaped set b then ['%', hexDigit (b.toNat / 16), hexDigit (b.toNat % 16)]
  else [Char.ofNat b.toNat]

/-- Bytes with their escapes. -/
def bytes (set : Set) (bs : Bytes) : List Char := bs.flatMap (byte set)

/-- A text with its escapes. -/
def text (set : Set) (cs : List Char) : List Char := bytes set (Utf8.encode cs)

/-- The value of a digit of base sixteen. -/
def hexValue? (b : UInt8) : Option Nat :=
  if 0x30 ≤ b && b ≤ 0x39 then some (b.toNat - 0x30)
  else if 0x41 ≤ b && b ≤ 0x46 then some (b.toNat - 0x37)
  else if 0x61 ≤ b && b ≤ 0x66 then some (b.toNat - 0x57)
  else none

/-- The bytes that a text with escapes stands for.  A `%` without two digits stands for itself. -/
def undo : Bytes → Bytes
  | [] => []
  | [a] => [a]
  | [a, b] => [a, b]
  | a :: b :: c :: rest =>
    if a = 0x25 then
      match hexValue? b, hexValue? c with
      | some h, some l => (h * 16 + l).toUInt8 :: undo rest
      | _, _ => a :: undo (b :: c :: rest)
    else a :: undo (b :: c :: rest)

end ServerLink.Escape
