import ServerLink.Json.Value
import ServerLink.Number.Shortest
import ServerLink.Text.Decimal

/-!
# JSON as text

Compact text without spaces.  Fields are written in the order in which they stand.

* `Json.writeString` — a text: only a quote, a backslash and the controls below U+0020 are escaped.
* `Json.write` — a value.
* `Json.writeFields` — an object from fields in a given order, for messages whose order is fixed.
-/

namespace ServerLink.Json

/-- One character inside a JSON string. -/
def escapeChar (c : Char) : List Char :=
  match c with
  | '"' => ['\\', '"']
  | '\\' => ['\\', '\\']
  | '\x08' => ['\\', 'b']
  | '\t' => ['\\', 't']
  | '\n' => ['\\', 'n']
  | '\x0c' => ['\\', 'f']
  | '\r' => ['\\', 'r']
  | _ =>
    if c.toNat < 0x20 then
      let digits := Nat.toDigits 16 c.toNat
      ['\\', 'u'] ++ List.replicate (4 - digits.length) '0' ++ digits
    else [c]

/-- A text as JSON text. -/
def writeString (s : String) : String :=
  String.ofList ('"' :: (s.toList.flatMap escapeChar ++ ['"']))

/-- Pieces between an opening and a closing text, with commas. -/
def bracketed (opening closing : String) (pieces : List String) : String :=
  opening ++ ",".intercalate pieces ++ closing

mutual
/-- A value as JSON text. -/
def write : Json → String
  | .null => "null"
  | .bool true => "true"
  | .bool false => "false"
  | .int n => Decimal.ofInt n
  | .real x => x.toText
  | .str s => writeString s
  | .arr items => bracketed "[" "]" (writeItems items)
  | .obj fields => bracketed "\x7b" "\x7d" (writePairs fields)
/-- The items of a list as JSON texts. -/
def writeItems : List Json → List String
  | [] => []
  | v :: rest => write v :: writeItems rest
/-- The fields of an object as JSON texts. -/
def writePairs : List (String × Json) → List String
  | [] => []
  | (n, v) :: rest => (writeString n ++ ":" ++ write v) :: writePairs rest
end

/-- An object as JSON text, its fields in the order given. -/
def writeFields (fields : List (String × Json)) : String :=
  write (.obj fields)

end ServerLink.Json
