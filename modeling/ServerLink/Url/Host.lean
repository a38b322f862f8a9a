import ServerLink.Url.Escape
import ServerLink.Url.Punycode
import ServerLink.Text.Blank
import ServerLink.Text.Decimal

/-!
# Hosts of addresses

* `Url.Fault`, `Url.Fault.message` — why a text is no address.
* `Url.readHost` — a host of a scheme of the web or of `file`: a name in small ASCII letters, or a
  number.
* `Url.readOpaqueHost` — a host of any other scheme, kept as it is.

A name whose last label is a number is a numeric address of four bytes; between brackets stands one
of eight pairs of bytes, which is written with its longest run of zeros left out.
-/

namespace ServerLink.Url

/-- Why a text is no address. -/
inductive Fault where
  | emptyHost
  | internationalName
  | badPort
  | badAddress4
  | badAddress6
  | badNameCharacter
  | noBase
deriving DecidableEq, Repr

/-- The wording of a fault. -/
def Fault.message : Fault → String
  | .emptyHost => "empty host"
  | .internationalName => "invalid international domain name"
  | .badPort => "invalid port number"
  | .badAddress4 => "invalid IPv4 address"
  | .badAddress6 => "invalid IPv6 address"
  | .badNameCharacter => "invalid domain character"
  | .noBase => "relative URL without a base"

/-! ## Numeric addresses of four bytes -/

/-- A digit in a base up to sixteen. -/
def digitIn? (base : Nat) (c : Char) : Option Nat :=
  if c.toNat < 128 then
    match Escape.hexValue? c.toNat.toUInt8 with
    | some d => if d < base then some d else none
    | none => none
  else none

/-- A number in a base; nothing stands for zero. -/
def numberIn? (base : Nat) (cs : List Char) : Option Nat :=
  cs.foldl (fun n c => n.bind fun n => (digitIn? base c).map (n * base + ·)) (some 0)

/-- A label read as a number: `0x` for base sixteen, a leading zero for base eight. -/
def labelNumber? (cs : List Char) : Option Nat :=
  match cs with
  | [] => none
  | '0' :: 'x' :: rest | '0' :: 'X' :: rest => numberIn? 16 rest
  | ['0'] => some 0
  | '0' :: rest => numberIn? 8 rest
  | _ => numberIn? 10 cs

/-- The labels of a name; one empty label at the end does not count. -/
def labels (cs : List Char) : List (List Char) :=
  let all := Text.splitOn '.' cs
  if 1 < all.length && all.getLast? = some [] then all.dropLast else all

/-- Whether the last label is a number, well formed or not. -/
def endsInNumber (cs : List Char) : Bool :=
  match (labels cs).getLast? with
  | some last =>
    (!last.isEmpty && last.all fun c => '0' ≤ c && c ≤ '9') ||
      (match last with
        | '0' :: 'x' :: rest | '0' :: 'X' :: rest => (numberIn? 16 rest).isSome
        | _ => false)
  | none => false

/-- The number of an address: the last label fills what the others leave. -/
def address4? (cs : List Char) : Option Nat := do
  let parts ← (labels cs).mapM labelNumber?
  let last ← parts.getLast?
  let before := parts.dropLast
  if 3 < before.length || before.any (255 < ·) then none
  else if Nat.pow 256 (4 - before.length) ≤ last then none
  else
    let high := before.foldl (fun n b => n * 256 + b) 0
    some (high * Nat.pow 256 (4 - before.length) + last)

/-- Four bytes with dots. -/
def writeAddress4 (n : Nat) : List Char :=
  let byte (k : Nat) := (Decimal.ofNat (n / Nat.pow 256 k % 256)).toList
  byte 3 ++ '.' :: byte 2 ++ '.' :: byte 1 ++ '.' :: byte 0

/-! ## Numeric addresses of eight pairs -/

/-- The pairs written by dotted bytes at the end of an address. -/
def dottedPairs? (cs : List Char) : Option (List Nat) := do
  let parts := Text.splitOn '.' cs
  let bytes ← parts.mapM fun p =>
    match p with
    | [] => none
    | '0' :: _ :: _ => none
    | _ =>
      if p.all Char.isDigit then (numberIn? 10 p).bind fun n => if n < 256 then some n else none
           else none
  match bytes with
  | [a, b, c, d] => some [a * 256 + b, c * 256 + d]
  | _ => none

/-- The pairs between colons; the last piece may be dotted. -/
def pairs? : List (List Char) → Option (List Nat)
  | [] => some []
  | [last] =>
    if last.contains '.' then dottedPairs? last
    else if last.isEmpty || 4 < last.length then none
    else (numberIn? 16 last).map ([·])
  | p :: rest =>
    if p.isEmpty || 4 < p.length then none
    else (numberIn? 16 p).bind fun n => (pairs? rest).map (n :: ·)

/-- Where `::` first stands: the text before and after it. -/
def splitAtGap : List Char → Option (List Char × List Char)
  | ':' :: ':' :: rest => some ([], rest)
  | c :: rest => (splitAtGap rest).map fun (a, b) => (c :: a, b)
  | [] => none

/-- The pieces between colons; an empty text has none. -/
def colonPieces (cs : List Char) : List (List Char) :=
  if cs.isEmpty then [] else Text.splitOn ':' cs

/-- The eight pairs of an address. -/
def address6? (cs : List Char) : Option (List Nat) :=
  match splitAtGap cs with
  | some (before, after) => do
    if before.contains '.' then none
    let a ← pairs? (colonPieces before)
    let b ← pairs? (colonPieces after)
    if 7 < a.length + b.length then none
    else some (a ++ List.replicate (8 - a.length - b.length) 0 ++ b)
  | none => do
    let a ← pairs? (colonPieces cs)
    if a.length = 8 then some a else none

/-- How many zeros each suffix starts with. -/
def zeroRuns : List Nat → List Nat
  | [] => []
  | n :: rest =>
    let runs := zeroRuns rest
    (if n = 0 then runs.headD 0 + 1 else 0) :: runs

/-- Eight pairs, with the first longest run of two or more zeros left out. -/
def writeAddress6 (pairs : List Nat) : List Char :=
  let runs := zeroRuns pairs
  let longest := runs.foldl Nat.max 0
  let hex (ns : List Nat) := (List.intercalate [':'] (ns.map (Nat.toDigits 16)))
  if longest < 2 then hex pairs
  else
    let start := runs.idxOf longest
    hex (pairs.take start) ++ [':', ':'] ++ hex (pairs.drop (start + longest))

/-! ## Names -/

/-- Characters that no host holds. -/
def isForbiddenInHost (c : Char) : Bool :=
  ['\x00', '\t', '\n', '\r', ' ', '#', '/', ':', '<', '>', '?', '@', '[', '\\', ']', '^',
    '|'].contains c

/-- Characters that no host name holds. -/
def isForbiddenInName (c : Char) : Bool :=
  isForbiddenInHost c || c = '%' || c.toNat < 0x20 || c.toNat = 0x7F

/-- The host between brackets, if the text opens one. -/
def readBracketed (cs : List Char) : Option (Except Fault (List Char)) :=
  match cs with
  | '[' :: rest =>
    some <|
      if rest.getLast? = some ']' then
        match address6? rest.dropLast with
        | some pairs => .ok ('[' :: writeAddress6 pairs ++ [']'])
        | none => .error .badAddress6
      else .error .badAddress6
  | _ => none

/-- A host of a scheme of the web or of `file`. -/
def readHost (cs : List Char) : Except Fault (List Char) :=
  match readBracketed cs with
  | some r => r
  | none =>
    let letters := (Utf8.decodeLossy (Escape.undo (Utf8.encode cs))).flatMap Punycode.fold
    let name := ['.'].intercalate ((Text.splitOn '.' letters).map Punycode.label)
    if letters.any fun c => Punycode.isBarred c || isForbiddenInName c then
      .error .internationalName
    else if name.isEmpty then .error .emptyHost
    else if endsInNumber name then
      match address4? name with
      | some n => .ok (writeAddress4 n)
      | none => .error .badAddress4
    else .ok name

/-- A host of any other scheme. -/
def readOpaqueHost (cs : List Char) : Except Fault (List Char) :=
  match readBracketed cs with
  | some r => r
  | none =>
    if cs.any isForbiddenInHost then .error .badNameCharacter
    else .ok (Escape.text Escape.controls cs)

end ServerLink.Url
