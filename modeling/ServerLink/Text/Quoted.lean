import ServerLink.Text.Unprintable
import ServerLink.Text.Utf8

/-!
# Quoted text

The form in which a message shows a text that may hold anything: between double quotes, with a
backslash before a quote or a backslash, short names for TAB, LF, CR and NUL, and the number of
every character that does not print on its own.

* `quoteChar` — one character inside the quotes.
* `quote` — a whole text.
* `quoteBytes` — bytes that may fail to be text: what does not decode is shown byte by byte.
* `quoteList` — a list of quoted texts between brackets.
-/

namespace ServerLink.Text

/-- The digits of a number in base sixteen, in lower case. -/
def hexDigits (n : Nat) : List Char :=
  Nat.toDigits 16 n

/-- A character as it stands between double quotes. -/
def quoteChar (c : Char) : List Char :=
  match c with
  | '"' => ['\\', '"']
  | '\\' => ['\\', '\\']
  | '\t' => ['\\', 't']
  | '\n' => ['\\', 'n']
  | '\r' => ['\\', 'r']
  | '\x00' => ['\\', '0']
  | _ => if isUnprintable c then "\\u\x7b".toList ++ hexDigits c.toNat ++ ['\x7d'] else [c]

/-- A text between double quotes. -/
def quote (s : String) : String :=
  String.ofList ('"' :: (s.toList.flatMap quoteChar ++ ['"']))

/-- A byte outside every character, between double quotes. -/
def quoteByte (b : UInt8) : List Char :=
  let digits := (hexDigits b.toNat).map fun c => c.toUpper
  "\\x".toList ++ List.replicate (2 - digits.length) '0' ++ digits

/-- Bytes between double quotes: characters where they decode, numbers where they do not. -/
def quoteBytesFrom (held : Bytes) : Option Utf8.Owed → Bytes → List Char
  | _, [] => held.flatMap quoteByte
  | s, b :: rest =>
    match Utf8.accept s b with
    | some (some c, s') => quoteChar c ++ quoteBytesFrom [] s' rest
    | some (none, s') => quoteBytesFrom (held ++ [b]) s' rest
    | none =>
      match Utf8.first b with
      | some (some c, s') => held.flatMap quoteByte ++ quoteChar c ++ quoteBytesFrom [] s' rest
      | some (none, s') => held.flatMap quoteByte ++ quoteBytesFrom [b] s' rest
      | none => held.flatMap quoteByte ++ quoteByte b ++ quoteBytesFrom [] none rest

/-- Bytes between double quotes. -/
def quoteBytes (bs : Bytes) : String :=
  String.ofList ('"' :: (quoteBytesFrom [] none bs ++ ['"']))

/-- Quoted texts between brackets. -/
def quoteList (items : List String) : String :=
  "[" ++ ", ".intercalate (items.map quote) ++ "]"

end ServerLink.Text
