import ServerLink.Failure.Wire
import ServerLink.Log
import ServerLink.Text.Blank

/-!
# Frames

A message travels as a **frame**: a block of header lines that names the number of bytes of the
body, an empty line, and the body.  The stream is cut on bytes; text is decoded only once a body is
whole.

* `Frame.encode` — the frame of a body.
* `Frame.readLength` — what a header block says.
* `Frame.take` — the first frame of a buffer: whole, still incomplete, or rejected.
* `Frame.decode` — all whole frames at the front of a buffer.
* `Frame.Decoder` — a buffer and the messages cut from it that nobody has taken yet; `absorb` takes
  a chunk, `next?` gives a message away.

A rejected header stays at the front of the buffer: nothing behind it is ever delivered.
-/

namespace ServerLink.Frame

/-- The most bytes that a body may have. -/
def limit : Nat := 16 * 1024 * 1024

/-- The text before the body. -/
def header (length : Nat) : String := "Content-Length: " ++ Decimal.ofNat length ++ "\r\n\r\n"

/-- The frame of a body. -/
def encode (body : Bytes) : Bytes := Utf8.ofString (header body.length) ++ body

/-- The frame of a message. -/
def ofMessage (message : String) : Bytes := encode (Utf8.ofString message)

/-! ## Headers -/

/-- The name of the header line that counts. -/
def lengthName : List Char := "content-length".toList

/-- The trimmed value of a header line that gives a length. -/
def lengthValue? (line : List Char) : Option (List Char) :=
  match Text.splitAtFirst ':' line with
  | some (name, value) =>
    if Text.sameIgnoringCase (Text.trim name) lengthName then some (Text.trim value) else none
  | none => none

/-- The length that a header block gives.  The first line that gives one decides. -/
def readLength (block : List Char) : Except FrameError Nat :=
  match (Text.lines block).findSome? lengthValue? with
  | none => .error (.missingLength "Missing Content-Length header")
  | some value =>
    match Decimal.natBelow? Decimal.limit64 value with
    | none => .error (.badLength (String.ofList value))
    | some n => if limit < n then .error (.tooLarge n limit) else .ok n

/-- Cuts a buffer at the first empty line: the header block, in front of what is `read` in reverse,
and what follows. -/
def cutBlock? (read : Bytes) : Bytes → Option (Bytes × Bytes)
  | 0x0D :: 0x0A :: 0x0D :: 0x0A :: rest => some (read.reverse, rest)
  | b :: rest => cutBlock? (b :: read) rest
  | [] => none

/-! ## Frames of a buffer -/

/-- What stands at the front of a buffer. -/
inductive Front where
  | incomplete
  | rejected (e : FrameError)
  | whole (body rest : Bytes)

/-- The first frame of a buffer. -/
def take (buffer : Bytes) : Front :=
  match cutBlock? [] buffer with
  | none => .incomplete
  | some (block, rest) =>
    match readLength (Utf8.decodeLossy block) with
    | .error e => .rejected e
    | .ok n =>
      if rest.length < n then .incomplete else .whole (rest.take n) (rest.drop n)

theorem cutBlock?_shorter {read buffer block rest : Bytes}
    (h : cutBlock? read buffer = some (block, rest)) : rest.length < buffer.length := by
  fun_induction cutBlock? read buffer with
  | case1 read rest' =>
    simp only [Option.some.injEq, Prod.mk.injEq] at h
    obtain ⟨-, rfl⟩ := h
    simp only [List.length_cons]; omega
  | case2 read b rest' _ ih =>
    have := ih h
    simp only [List.length_cons]; omega
  | case3 => simp at h

theorem take_shorter {buffer body rest : Bytes} (h : take buffer = .whole body rest) :
    rest.length < buffer.length := by
  unfold take at h
  split at h
  · simp at h
  · rename_i block tail hcut
    split at h
    · simp at h
    · split at h
      · simp at h
      · simp only [Front.whole.injEq] at h
        obtain ⟨-, rfl⟩ := h
        have := cutBlock?_shorter hcut
        rw [List.length_drop]; omega

/-- The bodies of the whole frames at the front of a buffer, what is left of it, and the fault of a
rejected header, if one is met. -/
structure Decoded where
  bodies : List Bytes
  rest : Bytes
  fault : Option FrameError

/-- Cuts all whole frames off the front of a buffer. -/
def decode (buffer : Bytes) : Decoded :=
  match _h : take buffer with
  | .incomplete => ⟨[], buffer, none⟩
  | .rejected e => ⟨[], buffer, some e⟩
  | .whole body rest =>
    let later := decode rest
    ⟨body :: later.bodies, later.rest, later.fault⟩
termination_by buffer.length
decreasing_by exact take_shorter (by assumption)

/-! ## The decoder of a stream -/

/-- The message of a body; bytes that are no text are replaced. -/
def message (body : Bytes) : String := Utf8.toStringLossy body

/-- What is logged about a body that is no text. -/
def complaint? (body : Bytes) : Option Log.Line :=
  let valid := Utf8.validLength body
  if valid < body.length then
    some (Log.warn ("LspFraming: invalid UTF-8 at byte " ++ Decimal.ofNat valid ++ " of a "
      ++ Decimal.ofNat body.length ++ " byte message, replacing"))
  else none

/-- The bytes received that make up no whole frame yet, and the messages not taken yet. -/
structure Decoder where
  buffer : Bytes
  queue : List String
deriving Repr

/-- The decoder of a stream that has not begun. -/
def Decoder.empty : Decoder := ⟨[], []⟩

/-- What comes of a chunk: the decoder after it, what is logged, and the fault if there is one.
Messages cut off before the fault stay in the queue. -/
structure Absorbed where
  decoder : Decoder
  log : List Log.Line
  fault : Option FrameError

/-- Takes a chunk. -/
def Decoder.absorb (d : Decoder) (chunk : Bytes) : Absorbed :=
  let cut := decode (d.buffer ++ chunk)
  { decoder := ⟨cut.rest, d.queue ++ cut.bodies.map message⟩
    log := cut.bodies.filterMap complaint?
    fault := cut.fault }

/-- Gives the first waiting message away. -/
def Decoder.next? (d : Decoder) : Option (String × Decoder) :=
  match d.queue with
  | [] => none
  | m :: rest => some (m, { d with queue := rest })

end ServerLink.Frame
