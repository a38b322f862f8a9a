import ServerLink.Path
import ServerLink.Uri
import ServerLink.Url.Host

/-!
# Addresses

An address is kept in its parts, each already in the form in which it is written.

* `Url` — the parts; `Url.text` writes them.
* `Url.read` — reads a text.  The scheme decides how: the schemes of the web always have a host, a
  `file` may have one, and any other has what the text shows.
* `Url.ofFile?`, `Url.ofDirectory?` — the address of an absolute path.
* `Url.identifier?` — the address as an identifier of the strict grammar.
* `Url.folderName` — the name under which a folder is announced.

Segments `.` and `..` of a path are resolved while it is read.  An address without slashes after its
scheme has a path of one piece that is not resolved and has no segments.
-/

namespace ServerLink

/-- An address in its parts. -/
structure Url where
  scheme : List Char
  authority : Option (List Char)
  path : List Char
  query : Option (List Char)
  fragment : Option (List Char)
deriving DecidableEq, Repr

namespace Url

/-- An optional part after its mark. -/
def marked (mark : Char) : Option (List Char) → List Char
  | some part => mark :: part
  | none => []

/-- The address written out.  A path that starts with two slashes and has no authority before it is
kept apart from one by `/.`. -/
def chars (u : Url) : List Char :=
  let place := match u.authority with
    | some a => '/' :: '/' :: a
    | none => if ['/', '/'].isPrefixOf u.path then ['/', '.'] else []
  u.scheme ++ ':' :: place ++ u.path ++ marked '?' u.query ++ marked '#' u.fragment

/-- The text of an address. -/
def text (u : Url) : String := String.ofList u.chars

/-- Whether the path has segments. -/
def hasSegments (u : Url) : Bool := u.authority.isSome || u.path.head? = some '/'

/-- The segments of the path, when it has any. -/
def segments? (u : Url) : Option (List (List Char)) :=
  if u.hasSegments then some (Text.splitOn '/' (u.path.drop 1)) else none

/-! ## Schemes -/

/-- How the rest of an address is read. -/
inductive Kind where
  | file
  | web (port : Nat)
  | other
deriving DecidableEq, Repr

/-- The kind of a scheme. -/
def kindOf (scheme : List Char) : Kind :=
  match String.ofList scheme with
  | "file" => .file
  | "http" | "ws" => .web 80
  | "https" | "wss" => .web 443
  | "ftp" => .web 21
  | _ => .other

/-- Whether a backslash counts as a slash. -/
def Kind.isSpecial : Kind → Bool
  | .other => false
  | _ => true

/-- Whether a character ends a segment. -/
def Kind.endsSegment (k : Kind) (c : Char) : Bool := c = '/' || (k.isSpecial && c = '\\')

/-- The scheme of a text in lower case, and what follows its colon. -/
def readScheme (cs : List Char) : Option (List Char × List Char) :=
  match Text.splitAtFirst ':' cs with
  | some (scheme, rest) =>
    if Uri.isScheme scheme then some (scheme.map Text.lowerAscii, rest) else none
  | none => none

/-! ## Paths -/

/-- The pieces between characters that end a segment. -/
def cutSegments (k : Kind) : List Char → List (List Char)
  | [] => [[]]
  | c :: rest =>
    if k.endsSegment c then [] :: cutSegments k rest
    else
      match cutSegments k rest with
      | [] => [[c]]
      | piece :: pieces => (c :: piece) :: pieces

/-- Whether a segment names the directory it is in. -/
def isHere (s : List Char) : Bool :=
  ([".", "%2e"].map String.toList).contains (s.map Text.lowerAscii)

/-- Whether a segment names the parent directory. -/
def isUp (s : List Char) : Bool :=
  (["..", ".%2e", "%2e.", "%2e%2e"].map String.toList).contains (s.map Text.lowerAscii)

/-- Whether a segment is the letter of a drive. -/
def isDrive : List Char → Bool
  | [a, b] => Uri.isLetter a && (b = ':' || b = '|')
  | _ => false

/-- Resolves segments onto those before them, which are in reverse.  A drive letter at the start of
the path of a file is kept, with a colon. -/
def resolve (k : Kind) (before : List (List Char)) : List (List Char) → List (List Char)
  | [] => before.reverse
  | s :: rest =>
    let atEnd := rest.isEmpty
    let close (stack : List (List Char)) := if atEnd then [] :: stack else stack
    if isUp s then
      match before with
      | [d] => resolve k (close (if k = .file && isDrive d then [d] else [])) rest
      | _ => resolve k (close before.tail) rest
    else if isHere s then resolve k (close before) rest
    else
      match before, s with
      | [], [letter, _] =>
        if k = .file && isDrive s then resolve k [[letter, ':']] rest
        else resolve k (Escape.text Escape.path s :: before) rest
      | _, _ => resolve k (Escape.text Escape.path s :: before) rest

/-- The path of segments.  The path of a file starts with one slash only. -/
def joinSegments (k : Kind) (segments : List (List Char)) : List Char :=
  let kept := if k = .file then segments.dropWhile (·.isEmpty) else segments
  '/' :: List.intercalate ['/'] kept

/-- Reads a path; a slash at its start does not open an empty segment. -/
def readPath (k : Kind) (cs : List Char) : List Char :=
  let body := match cs with
    | c :: rest => if k.endsSegment c then rest else cs
    | [] => []
  joinSegments k (resolve k [] (cutSegments k body))

/-! ## Authorities -/

/-- Digits of a port: its number, unless it is the usual one of the scheme. -/
def readPort (k : Kind) (digits : List Char) : Except Fault (Option Nat) :=
  if digits.isEmpty then .ok none
  else
    match Decimal.value 0 digits with
    | some n =>
      if 65535 < n then .error .badPort
      else match k with
        | .web usual => .ok (if n = usual then none else some n)
        | _ => .ok (some n)
    | none => .error .badPort

/-- The user before the `@`, with the `@`. -/
def writeUser (cs : List Char) : List Char :=
  let (name, password) := Uri.cut ':' cs
  let name := Escape.text Escape.user name
  let password := match password with
    | some [] | none => []
    | some p => ':' :: Escape.text Escape.user p
  if name.isEmpty && password.isEmpty then [] else name ++ password ++ ['@']

/-- A host, and what follows its colon.  A colon between brackets is part of the host. -/
def cutPort : (inside : Bool) → List Char → List Char × Option (List Char)
  | _, [] => ([], none)
  | inside, c :: rest =>
    if c = ':' && !inside then ([], some rest)
    else
      let (host, port) := cutPort (c = '[' || (inside && c != ']')) rest
      (c :: host, port)

/-- Reads an authority other than that of a file. -/
def readAuthority (k : Kind) (cs : List Char) : Except Fault (List Char) := do
  let (user, place) := Uri.splitAtLast '@' cs
  let (host, port) := cutPort false place
  if user.any (!·.isEmpty) && place.isEmpty then throw .emptyHost
  if k.isSpecial && host.isEmpty then throw .emptyHost
  let host ← if k.isSpecial then readHost host else readOpaqueHost host
  let port ← readPort k (port.getD [])
  let user := (user.map writeUser).getD []
  if host.isEmpty && (!user.isEmpty || port.isSome) then throw .emptyHost
  return user ++ host ++ marked ':' (port.map fun n => (Decimal.ofNat n).toList)

/-- Reads the authority of a file; that of the machine itself is left out. -/
def readFileAuthority (cs : List Char) : Except Fault (List Char) :=
  if cs.isEmpty then .ok []
  else (readHost cs).map fun h => if h = "localhost".toList then [] else h

/-! ## Whole addresses -/

/-- The parts after the scheme, before `?` and `#`. -/
def readPlace (k : Kind) (cs : List Char) : Except Fault (Option (List Char) × List Char) :=
  match k with
  | .file =>
    match cs with
    | a :: b :: rest =>
      if k.endsSegment a && k.endsSegment b then
        let host := rest.takeWhile (!k.endsSegment ·)
        -- a drive in the place of the host belongs to the path
        if isDrive host then .ok (some [], readPath k rest)
        else
          (readFileAuthority host).map fun h =>
            (some h, readPath k (rest.dropWhile (!k.endsSegment ·)))
      else .ok (some [], readPath k cs)
    | _ => .ok (some [], readPath k cs)
  | .web _ =>
    let rest := cs.dropWhile k.endsSegment
    (readAuthority k (rest.takeWhile (!k.endsSegment ·))).map fun a =>
      (some a, readPath k (rest.dropWhile (!k.endsSegment ·)))
  | .other =>
    match cs with
    | '/' :: '/' :: rest =>
      (readAuthority k (rest.takeWhile (· != '/'))).map fun a =>
        let path := rest.dropWhile (· != '/')
        (some a, if path.isEmpty then [] else readPath k path)
    | '/' :: _ => .ok (none, readPath k cs)
    | _ => .ok (none, Escape.text Escape.controls cs)

/-- Whether a character is dropped at the ends of a text. -/
def isOuterBlank (c : Char) : Bool := c.toNat ≤ 0x20

/-- Whether a character is dropped anywhere in a text. -/
def isInnerBlank (c : Char) : Bool := c = '\t' || c = '\n' || c = '\r'

/-- Reads a text as an address. -/
def readChars (cs : List Char) : Except Fault Url :=
  let trimmed := ((cs.dropWhile isOuterBlank).reverse.dropWhile isOuterBlank).reverse
  let kept := trimmed.filter (!isInnerBlank ·)
  match readScheme kept with
  | none => .error .noBase
  | some (scheme, rest) =>
    let kind := kindOf scheme
    let (rest, fragment) := Uri.cut '#' rest
    let (place, query) := Uri.cut '?' rest
    (readPlace kind place).map fun (authority, path) =>
      { scheme, authority, path
        query := query.map (Escape.text (if kind.isSpecial then Escape.webQuery else Escape.query))
        fragment := fragment.map (Escape.text Escape.fragment) }

/-- Reads a text as an address. -/
def read (s : String) : Except Fault Url := readChars s.toList

/-! ## Files -/

/-- The address of an absolute path. -/
def ofFile? (p : Path) : Option Url :=
  if p.isAbsolute then
    let segments := (p.components.drop 1).map fun c => Escape.bytes Escape.segment c.bytes
    some { scheme := "file".toList, authority := some []
           path := '/' :: List.intercalate ['/'] segments, query := none, fragment := none }
  else none

/-- The address of an absolute path as a directory: its path ends in a slash. -/
def ofDirectory? (p : Path) : Option Url :=
  (ofFile? p).map fun u =>
    if u.path.getLast? = some '/' then u else { u with path := u.path ++ ['/'] }

/-- The text of an address, when it is an identifier of the strict grammar. -/
def identifier? (u : Url) : Option String :=
  if Uri.isWellFormed u.chars then some u.text else none

/-- The last segment that is not empty; without one, the address itself. -/
def folderName (u : Url) : String :=
  match (u.segments?.getD []).reverse.find? (!·.isEmpty) with
  | some s => String.ofList s
  | none => u.text

end Url

end ServerLink
