/-!
# Text as bytes: UTF-8

Everything that leaves or enters the program is a list of bytes; everything it thinks about is a
list of characters.  This module is the bridge in both directions.

* `encode` — characters to bytes.
* `accept` — **one byte** of the decoder: the character it completes, if any, and what is still
  owed; or a refusal, when no character has these bytes.
* `decode?` — strict decoding: every byte is accepted and nothing is owed at the end.
* `decodeLossy` — total decoding: each maximal run of bytes that starts a character and cannot
  finish it becomes one U+FFFD.
* `validLength` — how many bytes form whole characters before the first refusal.

The decoder walks the list byte by byte with an explicit state, so that every law about it is an
induction on the bytes alone.
-/

namespace ServerLink

/-- A run of bytes, as read from or written to a stream or a file name. -/
abbrev Bytes := List UInt8

namespace Utf8

/-! ## Encoding -/

/-- The bytes of one character: one to four, by the size of its number. -/
def encodeChar (c : Char) : Bytes :=
  let n := c.toNat
  if n < 0x80 then [n.toUInt8]
  else if n < 0x800 then [(0xC0 + n / 0x40).toUInt8, (0x80 + n % 0x40).toUInt8]
  else if n < 0x10000 then
    [(0xE0 + n / 0x1000).toUInt8, (0x80 + n / 0x40 % 0x40).toUInt8, (0x80 + n % 0x40).toUInt8]
  else
    [(0xF0 + n / 0x40000).toUInt8, (0x80 + n / 0x1000 % 0x40).toUInt8,
      (0x80 + n / 0x40 % 0x40).toUInt8, (0x80 + n % 0x40).toUInt8]

/-- The bytes of a list of characters. -/
def encode (cs : List Char) : Bytes :=
  cs.flatMap encodeChar

/-- The bytes of a text. -/
def ofString (s : String) : Bytes :=
  encode s.toList

/-! ## The decoder, one byte at a time -/

/-- A character that has begun: the bits read so far, how many bytes are still owed, and the
bounds of the next one.  The bounds of the second byte rule out overlong forms, surrogates and
numbers above U+10FFFF. -/
structure Owed where
  bits : Nat
  left : Nat
  low : UInt8
  high : UInt8
deriving DecidableEq, Repr

/-- What a first byte begins: a whole character, a longer one, or nothing. -/
def first (b : UInt8) : Option (Option Char × Option Owed) :=
  let n := b.toNat
  if n < 0x80 then some (some (Char.ofNat n), none)
  else if n < 0xC2 then none
  else if n < 0xE0 then some (none, some ⟨n - 0xC0, 1, 0x80, 0xBF⟩)
  else if n < 0xF0 then
    some (none, some ⟨n - 0xE0, 2, if n = 0xE0 then 0xA0 else 0x80,
      if n = 0xED then 0x9F else 0xBF⟩)
  else if n < 0xF5 then
    some (none, some ⟨n - 0xF0, 3, if n = 0xF0 then 0x90 else 0x80,
      if n = 0xF4 then 0x8F else 0xBF⟩)
  else none

/-- One byte of the decoder. -/
def accept : Option Owed → UInt8 → Option (Option Char × Option Owed)
  | none, b => first b
  | some o, b =>
    if o.low ≤ b && b ≤ o.high then
      let bits := o.bits * 0x40 + (b.toNat - 0x80)
      if o.left ≤ 1 then some (some (Char.ofNat bits), none)
      else some (none, some ⟨bits, o.left - 1, 0x80, 0xBF⟩)
    else none

/-- The character that stands for bytes that are none. -/
def replacement : Char := '\uFFFD'

/-- Puts a character, if there is one, in front of those decoded before it. -/
def push (c : Option Char) (done : List Char) : List Char :=
  match c with
  | some c => c :: done
  | none => done

/-- Total decoding from a state, with the characters decoded so far in reverse.  A byte that cannot
continue what is owed ends it with one replacement and is then read afresh. -/
def lossyFrom (done : List Char) : Option Owed → Bytes → List Char
  | none, [] => done.reverse
  | some _, [] => (replacement :: done).reverse
  | s, b :: rest =>
    match accept s b with
    | some (c, s') => lossyFrom (push c done) s' rest
    | none =>
      match s with
      | none => lossyFrom (replacement :: done) none rest
      | some _ =>
        match first b with
        | some (c, s') => lossyFrom (push c (replacement :: done)) s' rest
        | none => lossyFrom (replacement :: replacement :: done) none rest

/-- Strict decoding from a state, with the characters decoded so far in reverse. -/
def strictFrom (done : List Char) : Option Owed → Bytes → Option (List Char)
  | none, [] => some done.reverse
  | some _, [] => none
  | s, b :: rest =>
    match accept s b with
    | some (c, s') => strictFrom (push c done) s' rest
    | none => none

/-- Counts the bytes of whole characters: `whole` of them are complete, `seen` are read. -/
def validLengthFrom (whole seen : Nat) : Option Owed → Bytes → Nat
  | _, [] => whole
  | s, b :: rest =>
    match accept s b with
    | some (_, none) => validLengthFrom (seen + 1) (seen + 1) none rest
    | some (_, some o) => validLengthFrom whole (seen + 1) (some o) rest
    | none => whole

/-! ## Decoding -/

/-- The characters of the bytes, when they are UTF-8. -/
def decode? (bs : Bytes) : Option (List Char) :=
  strictFrom [] none bs

/-- The characters of the bytes, with replacements where they are not UTF-8. -/
def decodeLossy (bs : Bytes) : List Char :=
  lossyFrom [] none bs

/-- The length of the longest prefix that is UTF-8. -/
def validLength (bs : Bytes) : Nat :=
  validLengthFrom 0 0 none bs

/-- The text of the bytes, when they are UTF-8. -/
def toString? (bs : Bytes) : Option String :=
  (decode? bs).map String.ofList

/-- The text of the bytes, with replacements where they are not UTF-8. -/
def toStringLossy (bs : Bytes) : String :=
  String.ofList (decodeLossy bs)

end Utf8

end ServerLink
