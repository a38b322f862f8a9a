import ServerLink.Text.Blank

/-!
# The grammar of identifiers

Documents are named on the wire by identifiers of a strict grammar: ASCII only, `%` always before
two digits of base sixteen, brackets only around a numeric host.

* `Uri.isWellFormed` — whether a text is an identifier with a scheme.

An identifier is cut at `#`, `?`, `:` and `//` into its parts, and each part has its own set of
characters.
-/

namespace ServerLink.Uri

/-- A letter of ASCII. -/
def isLetter (c : Char) : Bool := ('a' ≤ c && c ≤ 'z') || ('A' ≤ c && c ≤ 'Z')

/-- A decimal digit. -/
def isDigit (c : Char) : Bool := '0' ≤ c && c ≤ '9'

/-- A digit of base sixteen. -/
def isHex (c : Char) : Bool := isDigit c || ('a' ≤ c && c ≤ 'f') || ('A' ≤ c && c ≤ 'F')

/-- Characters that never need an escape. -/
def isPlain (c : Char) : Bool := isLetter c || isDigit c || "-._~".toList.contains c

/-- Characters that may delimit parts inside a part. -/
def isDelimiter (c : Char) : Bool := "!$&'()*+,;=".toList.contains c

/-- Whether every character is allowed or part of an escape. -/
def allEscaped (allowed : Char → Bool) : List Char → Bool
  | [] => true
  | '%' :: a :: b :: rest => isHex a && isHex b && allEscaped allowed rest
  | c :: rest => allowed c && allEscaped allowed rest

/-- Characters of a path, between slashes and with them. -/
def isPathChar (c : Char) : Bool := isPlain c || isDelimiter c || c = ':' || c = '@' || c = '/'

/-- Characters of a query or a fragment. -/
def isQueryChar (c : Char) : Bool := isPathChar c || c = '?'

/-- Characters of a host name. -/
def isNameChar (c : Char) : Bool := isPlain c || isDelimiter c

/-- Characters before the `@` of an authority. -/
def isUserChar (c : Char) : Bool := isNameChar c || c = ':'

/-- What stands before the last `sep`, when there is one, and what after it. -/
def splitAtLast (sep : Char) (cs : List Char) : Option (List Char) × List Char :=
  let after := (cs.reverse.takeWhile (· != sep)).reverse
  if after.length = cs.length then (none, cs)
  else (some (cs.take (cs.length - after.length - 1)), after)

/-- A host, with its port. -/
def isHost (cs : List Char) : Bool :=
  match cs with
  | '[' :: rest =>
    match Text.splitAtFirst ']' rest with
    | some (address, port) =>
      address.all (fun c => isHex c || c = ':' || c = '.') &&
        (port.isEmpty || (port.head? = some ':' && port.tail.all isDigit))
    | none => false
  | _ =>
    match Text.splitAtFirst ':' cs with
    | some (name, port) => allEscaped isNameChar name && port.all isDigit
    | none => allEscaped isNameChar cs

/-- An authority: perhaps a user, then a host. -/
def isAuthority (cs : List Char) : Bool :=
  match splitAtLast '@' cs with
  | (some user, host) => allEscaped isUserChar user && isHost host
  | (none, host) => isHost host

/-- What follows the scheme and its colon, up to the query. -/
def isHierarchy (cs : List Char) : Bool :=
  match cs with
  | '/' :: '/' :: rest =>
    isAuthority (rest.takeWhile (· != '/')) && allEscaped isPathChar (rest.dropWhile (· != '/'))
  | _ => allEscaped isPathChar cs

/-- A text before the first `sep`, and what follows it if there is one. -/
def cut (sep : Char) (cs : List Char) : List Char × Option (List Char) :=
  match Text.splitAtFirst sep cs with
  | some (before, after) => (before, some after)
  | none => (cs, none)

/-- A scheme: a letter, then letters, digits and `+`, `-`, `.`. -/
def isScheme (cs : List Char) : Bool :=
  match cs with
  | c :: rest => isLetter c && rest.all fun c => isLetter c || isDigit c || "+-.".toList.contains c
  | [] => false

/-- Whether a text is an identifier with a scheme. -/
def isWellFormed (text : List Char) : Bool :=
  let (rest, fragment) := cut '#' text
  let (rest, query) := cut '?' rest
  match Text.splitAtFirst ':' rest with
  | some (scheme, hierarchy) =>
    isScheme scheme && isHierarchy hierarchy && query.all (allEscaped isQueryChar) &&
      fragment.all (allEscaped isQueryChar)
  | none => false

end ServerLink.Uri
