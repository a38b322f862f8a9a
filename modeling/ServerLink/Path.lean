import ServerLink.Text.Quoted

/-!
# Paths of files

A path is a run of bytes.  What it names is read from its **components**: a slash at the start is
the root, empty pieces and `.` mean nothing, except that a leading `.` of a relative path is kept
as a component of its own.

* `Path.components` — the components; two paths are the same when these are equal.
* `Path.parent?`, `Path.fileName?`, `Path.stem?`, `Path.extension?` — taking a path apart.
* `Path.join`, `Path.descend`, `Path.withFileName` — putting one together.  These keep the bytes of
  their left side as they are, doubled slashes included.
* `Path.relativeTo?` — what remains of a path below another.
* `Path.madeAbsolute?` — a path seen from a working directory, without `.` and doubled slashes.
-/

namespace ServerLink

/-- The path of a file or a directory. -/
structure Path where
  bytes : Bytes
deriving DecidableEq, Repr

namespace Path

/-- The byte between components. -/
def slash : UInt8 := 0x2F

/-- The byte that names the directory itself, and twice its parent. -/
def dot : UInt8 := 0x2E

/-- A component of a path. -/
inductive Component where
  | root
  | here
  | up
  | name (bytes : Bytes)
deriving DecidableEq, Repr

/-- The bytes of a component on its own. -/
def Component.bytes : Component → Bytes
  | root => [slash]
  | here => [dot]
  | up => [dot, dot]
  | name b => b

/-- The path with the bytes of a text. -/
def ofString (s : String) : Path := ⟨Utf8.ofString s⟩

/-- The text of a path, with replacements where it is none. -/
def display (p : Path) : String := Utf8.toStringLossy p.bytes

/-- The path between quotes. -/
def quoted (p : Path) : String := Text.quoteBytes p.bytes

/-! ## Pieces -/

/-- The pieces between slashes; one more than there are slashes. -/
def split : Bytes → List Bytes
  | [] => [[]]
  | b :: rest =>
    if b = slash then [] :: split rest
    else
      match split rest with
      | [] => [[b]]
      | piece :: pieces => (b :: piece) :: pieces

/-- Pieces with slashes between them. -/
def glue (pieces : List Bytes) : Bytes :=
  [slash].intercalate pieces

/-- Whether a piece means nothing. -/
def isIdle (piece : Bytes) : Bool := piece = [] || piece = [dot]

/-- Whether the path starts at the root. -/
def isAbsolute (p : Path) : Bool := p.bytes.head? = some slash

/-- Whether the path starts with a `.` of its own. -/
def startsHere (p : Path) : Bool :=
  match p.bytes with
  | [b] => b = dot
  | b :: c :: _ => b = dot && c = slash
  | [] => false

/-- The bytes that stand for a first component without a name: the root, or a leading `.`. -/
def lead (p : Path) : Bytes :=
  if p.isAbsolute then [slash] else if p.startsHere then [dot] else []

/-- The component without a name at the start, if there is one. -/
def leadComponent (p : Path) : List Component :=
  if p.isAbsolute then [.root] else if p.startsHere then [.here] else []

/-- The pieces after the lead. -/
def pieces (p : Path) : List Bytes := split (p.bytes.drop p.lead.length)

/-- The component of a piece that means something. -/
def componentOf (piece : Bytes) : Component :=
  if piece = [dot, dot] then .up else .name piece

/-- The components of a path. -/
def components (p : Path) : List Component :=
  p.leadComponent ++ (p.pieces.filter (!isIdle ·)).map componentOf

/-- Whether two paths have the same components. -/
def same (p q : Path) : Bool := p.components = q.components

/-! ## Taking a path apart -/

/-- The last piece that means something, with the pieces before it in reverse. -/
def lastPiece? (p : Path) : Option (Bytes × List Bytes) :=
  match p.pieces.reverse.dropWhile isIdle with
  | [] => none
  | piece :: before => some (piece, before)

/-- The path without its last component, and without what means nothing at its new end.  The root
has no parent, and neither has the empty path. -/
def parent? (p : Path) : Option Path :=
  match p.lastPiece? with
  | some (_, before) => some ⟨p.lead ++ glue (before.dropWhile isIdle).reverse⟩
  | none => if !p.isAbsolute && p.startsHere then some ⟨[]⟩ else none

/-- The name in the last component. -/
def fileName? (p : Path) : Option Bytes :=
  match p.lastPiece? with
  | some (piece, _) => if piece = [dot, dot] then none else some piece
  | none => none

/-- A name cut at its last dot.  A dot at the start cuts nothing. -/
def cutAtDot (name : Bytes) : Bytes × Option Bytes :=
  let after := (name.reverse.takeWhile (· != dot)).reverse
  let before := name.take (name.length - after.length - 1)
  if after.length = name.length || before.isEmpty then (name, none) else (before, some after)

/-- The name of the file before its last dot. -/
def stem? (p : Path) : Option Bytes := p.fileName?.map fun n => (cutAtDot n).1

/-- The name of the file after its last dot. -/
def extension? (p : Path) : Option Bytes := p.fileName?.bind fun n => (cutAtDot n).2

/-! ## Putting a path together -/

/-- A path below another.  An absolute path stands for itself. -/
def join (p q : Path) : Path :=
  if q.isAbsolute then q
  else if p.bytes.isEmpty || p.bytes.getLast? = some slash then ⟨p.bytes ++ q.bytes⟩
  else ⟨p.bytes ++ slash :: q.bytes⟩

/-- The path of what is found below a directory, or of the directory itself. -/
def descend (p relative : Path) : Path :=
  if relative.bytes.isEmpty then p else p.join relative

/-- The path with another name in its last component. -/
def withFileName (p : Path) (name : Bytes) : Path :=
  match p.fileName?, p.parent? with
  | some _, some q => q.join ⟨name⟩
  | _, _ => p.join ⟨name⟩

/-- The components after `base`, when the path starts with those of `base`. -/
def below? : List Component → List Component → Option (List Component)
  | [], rest => some rest
  | _ :: _, [] => none
  | b :: base, c :: rest => if b = c then below? base rest else none

/-- The pieces after those of `base`, when the pieces start with them; pieces that mean nothing are
passed over. -/
def piecesBelow? : List Component → List Bytes → Option (List Bytes)
  | [], pieces => some pieces
  | _ :: _, [] => none
  | c :: base, piece :: pieces =>
    if isIdle piece then piecesBelow? (c :: base) pieces
    else if componentOf piece = c then piecesBelow? base pieces
    else none

/-- Pieces without those at the end that mean nothing. -/
def trimEnd (pieces : List Bytes) : List Bytes := (pieces.reverse.dropWhile isIdle).reverse

/-- What remains of a path below another.  It keeps its spelling, without what means nothing at its
ends. -/
def relativeTo? (p base : Path) : Option Path :=
  if base.components.isEmpty then some ⟨p.lead ++ glue (trimEnd p.pieces)⟩
  else
    (below? p.leadComponent base.components).bind fun steps =>
      (piecesBelow? steps p.pieces).map fun rest => ⟨glue (trimEnd (rest.dropWhile isIdle))⟩

/-- The path seen from a working directory.  Components that mean nothing are dropped and `..` is
kept; a slash at the end is kept, and so are exactly two at the start.  The empty path is none. -/
def madeAbsolute? (p workingDirectory : Path) : Option Path :=
  if p.bytes.isEmpty then none
  else
    let start : Path :=
      if !p.isAbsolute then workingDirectory
      else if [slash, slash].isPrefixOf p.bytes && !([slash, slash, slash].isPrefixOf p.bytes) then
        ⟨[slash, slash]⟩
      else ⟨[slash]⟩
    let steps := p.components.filter fun c => c != .root && c != .here
    let whole := steps.foldl (fun q c => q.join ⟨c.bytes⟩) start
    if p.bytes.getLast? = some slash then some (whole.join ⟨[]⟩) else some whole

end Path

end ServerLink
