import ServerLink.Json.Value
import ServerLink.Text.Utf8
import ServerLink.Text.Decimal

/-!
# JSON text read

The reader walks the bytes of a text once.  Every refusal names its cause and the place it was
seen: either the byte just read or the one looked at.

* `Cause`, `Fault` — why a text is no JSON value, and where.
* `Number.read` — a number: whole numbers of 64 bits exactly, all others as the nearest binary
  number to the first twenty digits or so and a power of ten.
* `readString` — a string with its escapes, after the opening quote.
* `readValue` — a value nested at most 127 deep.
* `Json.parse` — a whole text.

Two notations that look alike are kept apart: `-0` is the binary number, `0` the whole one.
-/

namespace ServerLink

namespace Json

/-- Why a text is no JSON value. -/
inductive Cause where
  | endInValue
  | endInList
  | endInObject
  | endInString
  | expectedValue
  | expectedWord
  | expectedColon
  | expectedCommaOrBracket
  | expectedCommaOrBrace
  | keyNotString
  | trailingComma
  | trailingCharacters
  | invalidNumber
  | numberOutOfRange
  | invalidEscape
  | loneSurrogate
  | brokenSurrogatePair
  | controlCharacter
  | tooDeep
deriving DecidableEq, Repr

/-- The wording of a cause. -/
def Cause.text : Cause → String
  | .endInValue => "EOF while parsing a value"
  | .endInList => "EOF while parsing a list"
  | .endInObject => "EOF while parsing an object"
  | .endInString => "EOF while parsing a string"
  | .expectedValue => "expected value"
  | .expectedWord => "expected ident"
  | .expectedColon => "expected `:`"
  | .expectedCommaOrBracket => "expected `,` or `]`"
  | .expectedCommaOrBrace => "expected `,` or `\x7d`"
  | .keyNotString => "key must be a string"
  | .trailingComma => "trailing comma"
  | .trailingCharacters => "trailing characters"
  | .invalidNumber => "invalid number"
  | .numberOutOfRange => "number out of range"
  | .invalidEscape => "invalid escape"
  | .loneSurrogate => "lone leading surrogate in hex escape"
  | .brokenSurrogatePair => "unexpected end of hex escape"
  | .controlCharacter => "control character (\\u0000-\\u001F) found while parsing a string"
  | .tooDeep => "recursion limit exceeded"

/-- A cause and the number of bytes up to and including the one that shows it. -/
structure Fault where
  cause : Cause
  index : Nat
deriving DecidableEq, Repr

/-- The line and the column of the byte that ends a prefix, both as people count them, the column
in bytes. -/
def position (read : Bytes) : Nat × Nat :=
  (1 + read.count 0x0A, (read.reverse.takeWhile (· != 0x0A)).length)

/-- The wording of a fault in a text. -/
def Fault.message (f : Fault) (text : Bytes) : String :=
  let (line, column) := position (text.take f.index)
  f.cause.text ++ " at line " ++ Decimal.ofNat line ++ " column " ++ Decimal.ofNat column

/-! ## Walking the bytes -/

/-- What is left of the text, and how many bytes have been read. -/
structure Cursor where
  rest : Bytes
  index : Nat
deriving Repr

namespace Cursor

/-- The next byte, or zero at the end. -/
def peek (c : Cursor) : UInt8 := c.rest.headD 0

/-- The cursor after `n` bytes. -/
def skip (c : Cursor) (n : Nat) : Cursor := ⟨c.rest.drop n, c.index + n⟩

/-- A fault shown by the byte just read. -/
def fault (c : Cursor) (cause : Cause) : Fault := ⟨cause, c.index⟩

/-- A fault shown by the byte looked at; at the end of the text, by the last one. -/
def faultAhead (c : Cursor) (cause : Cause) : Fault :=
  ⟨cause, if c.rest.isEmpty then c.index else c.index + 1⟩

/-- The cursor after white space. -/
def skipBlanks (c : Cursor) : Cursor :=
  let n := (c.rest.takeWhile fun b => b == 0x20 || b == 0x0A || b == 0x09 || b == 0x0D).length
  c.skip n

/-- The cursor after digits. -/
def skipDigits (c : Cursor) : Cursor :=
  c.skip (c.rest.takeWhile fun b => 0x30 ≤ b && b ≤ 0x39).length

end Cursor

/-- A result with the cursor after it, or a fault. -/
abbrev Read (α : Type) := Except Fault (α × Cursor)

/-- Whether a byte is a decimal digit. -/
def isDigit (b : UInt8) : Bool := 0x30 ≤ b && b ≤ 0x39

/-- The value of a decimal digit. -/
def digitValue (b : UInt8) : Nat := b.toNat - 0x30

/-! ## Numbers -/

/-- The greatest number that digits are collected into. -/
def digitLimit : Nat := Decimal.limit64

/-- The binary number of a significand and a power of ten.  Powers beyond the table of 308 are
reached by dividing again and again. -/
def realOfParts (fuel : Nat) (x : Binary) (exponent : Int) : Option Binary :=
  match fuel with
  | 0 => some x
  | fuel + 1 =>
    if exponent.natAbs ≤ 308 then
      if 0 ≤ exponent then x.mulPower? exponent.natAbs
      else some (x.divPower exponent.natAbs)
    else if x.isZero then some x
    else if 0 ≤ exponent then none
    else realOfParts fuel (x.divPower 308) (exponent + 308)

/-- A number from its parts; refused when it is beyond the range. -/
def realFrom (positive : Bool) (significand : Nat) (exponent : Int) (c : Cursor) : Read Json :=
  match Binary.ofNat? (!positive) significand with
  | none => .error (c.fault .numberOutOfRange)
  | some x =>
    match realOfParts 16 x exponent with
    | some r => .ok (.real r, c)
    | none => .error (c.fault .numberOutOfRange)

/-- The digits of an exponent, while they stay in 32 bits. -/
def exponentDigits : Nat → Bytes → (read : Nat) → Option (Nat × Nat)
  | e, [], n => some (e, n)
  | e, b :: rest, n =>
    if isDigit b then
      if Decimal.limit31 ≤ e * 10 + digitValue b then none
      else exponentDigits (e * 10 + digitValue b) rest (n + 1)
    else some (e, n)

/-- The digits of an exponent, after its sign. -/
def readPower (positive : Bool) (significand : Nat) (exponent : Int) (raise : Bool) (c : Cursor) :
    Read Json :=
  match c.rest with
  | [] => .error (c.fault .endInValue)
  | b :: rest =>
    if isDigit b then
      match exponentDigits (digitValue b) rest 0 with
      | some (e, n) =>
        realFrom positive significand (if raise then exponent + e else exponent - e)
          (c.skip (1 + n))
      | none =>
        if significand != 0 && raise then
          -- the digit that leaves 32 bits has been read and shows the fault
          let n := (overflowAt (digitValue b) rest)
          .error ((c.skip (1 + n)).fault .numberOutOfRange)
        else .ok (.real (Binary.zero (!positive)), c.skipDigits)
    else .error ((c.skip 1).fault .invalidNumber)
where
  /-- How many digits are read up to the one that leaves 32 bits, itself included. -/
  overflowAt : Nat → Bytes → Nat
    | _, [] => 0
    | e, b :: rest =>
      if Decimal.limit31 ≤ e * 10 + digitValue b then 1
      else 1 + overflowAt (e * 10 + digitValue b) rest

/-- An exponent, from its letter on. -/
def readExponent (positive : Bool) (significand : Nat) (exponent : Int) (c : Cursor) : Read Json :=
  let c := c.skip 1
  let raise := c.peek != 0x2D
  let digits := if c.peek == 0x2B || c.peek == 0x2D then c.skip 1 else c
  readPower positive significand exponent raise digits

/-- Digits added to a significand while it stays in 64 bits: the significand, how many digits were
taken, and whether a further one was left out. -/
def moreDigits : Nat → Bytes → (taken : Nat) → Nat × Nat × Bool
  | s, [], n => (s, n, false)
  | s, b :: rest, n =>
    if isDigit b then
      if digitLimit ≤ s * 10 + digitValue b then (s, n, true)
      else moreDigits (s * 10 + digitValue b) rest (n + 1)
    else (s, n, false)

/-- Whether a byte opens an exponent. -/
def opensExponent (b : UInt8) : Bool := b == 0x65 || b == 0x45

/-- A fraction, from its point on. -/
def readFraction (positive : Bool) (significand : Nat) (exponent : Int) (c : Cursor) : Read Json :=
  let c := c.skip 1
  let (s, n, cut) := moreDigits significand c.rest 0
  let after := c.skip n
  let exponent := exponent - n
  if cut then
    let after := after.skipDigits
    if opensExponent after.peek then readExponent positive s exponent after
    else realFrom positive s exponent after
  else if n = 0 then
    .error (after.faultAhead (if after.rest.isEmpty then .endInValue else .invalidNumber))
  else if opensExponent after.peek then readExponent positive s exponent after
  else realFrom positive s exponent after

/-- A whole number of more than 64 bits: further digits only count. -/
def readLong (positive : Bool) (significand : Nat) (c : Cursor) : Read Json :=
  let after := c.skipDigits
  let exponent : Int := (after.index - c.index : Nat)
  if after.peek == 0x2E then readFraction positive significand exponent after
  else if opensExponent after.peek then readExponent positive significand exponent after
  else realFrom positive significand exponent after

/-- What follows the digits of a whole number of 64 bits. -/
def afterDigits (positive : Bool) (significand : Nat) (c : Cursor) : Read Json :=
  if c.peek == 0x2E then readFraction positive significand 0 c
  else if opensExponent c.peek then readExponent positive significand 0 c
  else if positive then .ok (.int significand, c)
  else if significand = 0 || Decimal.limit63 < significand then realFrom false significand 0 c
  else .ok (.int (-(significand : Int)), c)

/-- A number, after its sign. -/
def readNumber (positive : Bool) (c : Cursor) : Read Json :=
  match c.rest with
  | [] => .error (c.fault .endInValue)
  | b :: rest =>
    let after := c.skip 1
    if b == 0x30 then
      if isDigit after.peek then .error (after.faultAhead .invalidNumber)
      else afterDigits positive 0 after
    else if isDigit b then
      let (s, n, cut) := moreDigits (digitValue b) rest 0
      if cut then readLong positive s (after.skip n)
      else afterDigits positive s (after.skip n)
    else .error (after.fault .invalidNumber)

/-! ## Strings -/

/-- The value of a digit in base sixteen. -/
def hexValue? (b : UInt8) : Option Nat :=
  if isDigit b then some (digitValue b)
  else if 0x41 ≤ b && b ≤ 0x46 then some (b.toNat - 0x37)
  else if 0x61 ≤ b && b ≤ 0x66 then some (b.toNat - 0x57)
  else none

/-- Four digits in base sixteen. -/
def readHex (c : Cursor) : Except Fault (Nat × Cursor) :=
  match c.rest with
  | a :: b :: d :: e :: _ =>
    let after := c.skip 4
    match hexValue? a, hexValue? b, hexValue? d, hexValue? e with
    | some a, some b, some d, some e => .ok (((a * 16 + b) * 16 + d) * 16 + e, after)
    | _, _, _, _ => .error (after.fault .invalidEscape)
  | _ => .error ((c.skip c.rest.length).fault .endInString)

/-- The character of an escape by number, after its letter; two numbers where the first is the
leading half of a surrogate pair. -/
def readUnicode (c : Cursor) : Except Fault (Char × Cursor) := do
  let (n, c) ← readHex c
  if 0xDC00 ≤ n && n ≤ 0xDFFF then throw (c.fault .loneSurrogate)
  if n < 0xD800 || 0xDBFF < n then return (Char.ofNat n, c)
  if c.rest.isEmpty then throw (c.fault .endInString)
  if c.peek != 0x5C then throw ((c.skip 1).fault .brokenSurrogatePair)
  let c := c.skip 1
  if c.rest.isEmpty then throw (c.fault .endInString)
  if c.peek != 0x75 then throw ((c.skip 1).fault .brokenSurrogatePair)
  let (m, c) ← readHex (c.skip 1)
  if m < 0xDC00 || 0xDFFF < m then throw (c.fault .loneSurrogate)
  return (Char.ofNat ((n - 0xD800) * 0x400 + (m - 0xDC00) + 0x10000), c)

/-- The bytes of an escape, after its backslash. -/
def readEscape (c : Cursor) : Except Fault (Bytes × Cursor) :=
  match c.rest with
  | [] => .error (c.fault .endInString)
  | b :: _ =>
    let after := c.skip 1
    if b == 0x22 || b == 0x5C || b == 0x2F then .ok ([b], after)
    else if b == 0x62 then .ok ([0x08], after)
    else if b == 0x66 then .ok ([0x0C], after)
    else if b == 0x6E then .ok ([0x0A], after)
    else if b == 0x72 then .ok ([0x0D], after)
    else if b == 0x74 then .ok ([0x09], after)
    else if b == 0x75 then
      (readUnicode after).map fun (ch, c) => (Utf8.encodeChar ch, c)
    else .error (after.fault .invalidEscape)

/-- The bytes of a string, after its opening quote, with the bytes read so far in reverse. -/
def readString (fuel : Nat) (c : Cursor) (read : Bytes) : Except Fault (Bytes × Cursor) :=
  match fuel with
  | 0 => .error (c.fault .endInString)
  | fuel + 1 =>
    match c.rest with
    | [] => .error (c.fault .endInString)
    | b :: _ =>
      let after := c.skip 1
      if b == 0x22 then .ok (read.reverse, after)
      else if b == 0x5C then
        match readEscape after with
        | .ok (bs, c) => readString fuel c (bs.reverse ++ read)
        | .error f => .error f
      else if b < 0x20 then .error (after.fault .controlCharacter)
      else readString fuel after (b :: read)

/-- A string, after its opening quote. -/
def readText (c : Cursor) : Except Fault (String × Cursor) :=
  (readString (c.rest.length + 1) c []).map fun (bs, c) => (Utf8.toStringLossy bs, c)

/-! ## Values -/

/-- The rest of a word, after its first letter. -/
def readWord (value : Json) : Bytes → Cursor → Read Json
  | [], c => .ok (value, c)
  | expected :: more, c =>
    match c.rest with
    | [] => .error (c.fault .endInValue)
    | b :: _ =>
      if b == expected then readWord value more (c.skip 1)
      else .error ((c.skip 1).fault .expectedWord)

/-- Whether another item of a list follows, and the cursor at it, or at the closing bracket. -/
def nextItem (isFirst : Bool) (c : Cursor) : Except Fault (Bool × Cursor) :=
  let c := c.skipBlanks
  match c.rest with
  | [] => .error (c.faultAhead .endInList)
  | b :: _ =>
    if b == 0x5D then .ok (false, c)
    else if isFirst then .ok (true, c)
    else if b == 0x2C then
      let c := (c.skip 1).skipBlanks
      match c.rest with
      | [] => .error (c.faultAhead .endInValue)
      | b :: _ => if b == 0x5D then .error (c.faultAhead .trailingComma) else .ok (true, c)
    else .error (c.faultAhead .expectedCommaOrBracket)

/-- Whether another field of an object follows, and the cursor at its quote, or at the closing
brace. -/
def nextField (isFirst : Bool) (c : Cursor) : Except Fault (Bool × Cursor) :=
  let c := c.skipBlanks
  match c.rest with
  | [] => .error (c.faultAhead .endInObject)
  | b :: _ =>
    if b == 0x7D then .ok (false, c)
    else if isFirst then
      if b == 0x22 then .ok (true, c) else .error (c.faultAhead .keyNotString)
    else if b == 0x2C then
      let c := (c.skip 1).skipBlanks
      match c.rest with
      | [] => .error (c.faultAhead .endInValue)
      | b :: _ =>
        if b == 0x22 then .ok (true, c)
        else if b == 0x7D then .error (c.faultAhead .trailingComma)
        else .error (c.faultAhead .keyNotString)
    else .error (c.faultAhead .expectedCommaOrBrace)

/-- The cursor after the colon of a field. -/
def readColon (c : Cursor) : Except Fault Cursor :=
  let c := c.skipBlanks
  match c.rest with
  | [] => .error (c.faultAhead .endInObject)
  | b :: _ => if b == 0x3A then .ok (c.skip 1) else .error (c.faultAhead .expectedColon)

mutual
/-- A value; `depth` more brackets may open inside it. -/
def readValue (fuel depth : Nat) (c : Cursor) : Read Json :=
  match fuel with
  | 0 => .error (c.faultAhead .endInValue)
  | fuel + 1 =>
    let c := c.skipBlanks
    match c.rest with
    | [] => .error (c.faultAhead .endInValue)
    | b :: _ =>
      -- the first byte tells: a word, a number, a text, a list or an object
      if b == 0x6E then readWord .null [0x75, 0x6C, 0x6C] (c.skip 1)
      else if b == 0x74 then readWord (.bool true) [0x72, 0x75, 0x65] (c.skip 1)
      else if b == 0x66 then readWord (.bool false) [0x61, 0x6C, 0x73, 0x65] (c.skip 1)
      else if b == 0x2D then readNumber false (c.skip 1)
      else if isDigit b then readNumber true c
      else if b == 0x22 then
        match readText (c.skip 1) with
        | .ok (s, c) => .ok (.str s, c)
        | .error f => .error f
      else if b == 0x5B then
        match depth with
        | 0 => .error (c.faultAhead .tooDeep)
        | depth + 1 => readItems fuel depth true (c.skip 1) []
      else if b == 0x7B then
        match depth with
        | 0 => .error (c.faultAhead .tooDeep)
        | depth + 1 => readFields fuel depth true (c.skip 1) []
      else .error (c.faultAhead .expectedValue)
/-- The items of a list up to its closing bracket, with those read so far in reverse. -/
def readItems (fuel depth : Nat) (isFirst : Bool) (c : Cursor) (read : List Json) : Read Json :=
  match fuel with
  | 0 => .error (c.faultAhead .endInList)
  | fuel + 1 =>
    match nextItem isFirst c with
    | .error f => .error f
    | .ok (false, c) => .ok (.arr read.reverse, c.skip 1)
    | .ok (true, c) =>
      match readValue fuel depth c with
      | .error f => .error f
      | .ok (v, c) => readItems fuel depth false c (v :: read)
/-- The fields of an object up to its closing brace, with those read so far in order. -/
def readFields (fuel depth : Nat) (isFirst : Bool) (c : Cursor) (read : List (String × Json)) :
    Read Json :=
  match fuel with
  | 0 => .error (c.faultAhead .endInObject)
  | fuel + 1 =>
    match nextField isFirst c with
    | .error f => .error f
    | .ok (false, c) => .ok (.obj read, c.skip 1)
    | .ok (true, c) =>
      match readText (c.skip 1) with
      | .error f => .error f
      | .ok (name, c) =>
        match readColon c with
        | .error f => .error f
        | .ok c =>
          match readValue fuel depth c with
          | .error f => .error f
          | .ok (v, c) => readFields fuel depth false c (insertField name v read)
end

/-- How many brackets may be open at once. -/
def depthLimit : Nat := 127

/-- Reads a whole text of bytes as one value. -/
def parseBytes (text : Bytes) : Except Fault Json :=
  match readValue (2 * text.length + 2) depthLimit ⟨text, 0⟩ with
  | .error f => .error f
  | .ok (v, c) =>
    let c := c.skipBlanks
    if c.rest.isEmpty then .ok v else .error (c.faultAhead .trailingCharacters)

/-- Reads a text as one value; a refusal comes with its wording. -/
def parse (text : String) : Except String Json :=
  let bs := Utf8.ofString text
  match parseBytes bs with
  | .ok v => .ok v
  | .error f => .error (f.message bs)

end Json

end ServerLink
