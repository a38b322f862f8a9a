import ServerLink.Failure.Wire
import ServerLink.Text.Utf8

/-!
# The pipe to a child

Between the program and the standard streams of a child stand two workers: a **writer** that puts
what was sent into the child's input, and a **reader** that takes the child's output chunk by chunk.
Program, workers and child take turns in any order.

* `Pipe` — the state: what waits in either direction, and how far the workers are.
* `Pipe.Move` — what can happen, and `Pipe.move?` — a move, when it can happen.
* `Pipe.send`, `Pipe.receive`, `Pipe.close` — what the program does.

Closing keeps what was accepted: the writer puts it into the child's input before that is closed.
What was read and not yet received is dropped.
-/

namespace ServerLink.Process

/-- A worker works until it is done; a worker that failed takes nothing more. -/
inductive Worker where
  | working
  | failed
  | done
deriving DecidableEq, Repr

/-- The pipe between the program and a child. -/
structure Pipe where
  connected : Bool
  /-- What was accepted and the writer has not yet taken up. -/
  outgoing : List Bytes
  /-- What the writer has taken up and not yet written. -/
  holding : Bytes
  writer : Worker
  /-- What the child has not yet taken from its input. -/
  input : Bytes
  /-- What the child has put out and nobody has read yet. -/
  output : Bytes
  /-- Whether the child may put out more. -/
  outputOpen : Bool
  reader : Worker
  /-- What was read and is not yet received. -/
  incoming : List Bytes
deriving Repr

namespace Pipe

/-- The pipe to a child that was just launched. -/
def start : Pipe := ⟨true, [], [], .working, [], [], true, .working, []⟩

/-- The most bytes that are read at a time. -/
def chunkLimit : Nat := 4096

/-- What can happen to a pipe. -/
inductive Move where
  /-- The program sends. -/
  | send (data : Bytes)
  /-- The program closes the pipe. -/
  | close
  /-- The program receives the first chunk that was read. -/
  | receive
  /-- The writer takes up the first chunk. -/
  | takeUp
  /-- The writer puts bytes of the chunk into the child's input. -/
  | write (count : Nat)
  /-- The writer finds the child's input closed. -/
  | failWrite
  /-- The writer has nothing more to write and closes the child's input. -/
  | closeInput
  /-- The reader takes bytes from the child's output. -/
  | read (count : Nat)
  /-- The reader cannot read the child's output. -/
  | failRead
  /-- The reader finds the end of the child's output. -/
  | finish
  /-- The child takes bytes from its input. -/
  | take (count : Nat)
  /-- The child puts bytes out. -/
  | put (data : Bytes)
  /-- The child puts out nothing more. -/
  | endOutput

/-- Whether the child may still get input. -/
def inputOpen (p : Pipe) : Bool := p.writer = .working

/-- A move, when it can happen. -/
def move? (p : Pipe) : Move → Option Pipe
  | .send data =>
    if p.connected && p.writer = .working then some { p with outgoing := p.outgoing ++ [data] }
    else none
  | .close => some { p with connected := false, incoming := [] }
  | .receive =>
    match p.connected, p.incoming with
    | true, _ :: rest => some { p with incoming := rest }
    | _, _ => none
  | .takeUp =>
    match p.writer, p.holding, p.outgoing with
    | .working, [], data :: rest => some { p with outgoing := rest, holding := data }
    | _, _, _ => none
  | .write count =>
    if p.writer = .working && 0 < count && count ≤ p.holding.length then
      some { p with holding := p.holding.drop count, input := p.input ++ p.holding.take count }
    else none
  | .failWrite =>
    if p.writer = .working && !p.holding.isEmpty then
      some { p with writer := .failed, outgoing := [], holding := [] }
    else none
  | .closeInput =>
    if p.writer = .working && !p.connected && p.outgoing.isEmpty && p.holding.isEmpty then
      some { p with writer := .done }
    else none
  | .read count =>
    if p.reader = .working && 0 < count && count ≤ chunkLimit && count ≤ p.output.length then
      if p.connected then
        some { p with output := p.output.drop count
                      incoming := p.incoming ++ [p.output.take count] }
      -- the bytes are read before it shows that nobody takes them
      else some { p with output := p.output.drop count, reader := .failed }
    else none
  | .failRead => if p.reader = .working then some { p with reader := .failed } else none
  | .finish =>
    if p.reader = .working && !p.outputOpen && p.output.isEmpty then
      some { p with reader := .done }
    else none
  | .take count =>
    if count ≤ p.input.length then some { p with input := p.input.drop count } else none
  | .put data => if p.outputOpen then some { p with output := p.output ++ data } else none
  | .endOutput => if p.outputOpen then some { p with outputOpen := false } else none

/-- Makes a move if it can happen. -/
def move (p : Pipe) (m : Move) : Pipe := (p.move? m).getD p

/-! ## What the program does -/

/-- Sends data, or tells why not. -/
def send (p : Pipe) (data : Bytes) : Pipe × Option PipeError :=
  if !p.connected then (p, some .disconnected)
  else
    match p.move? (.send data) with
    | some p => (p, none)
    | none => (p, some (.channel "channel closed"))

/-- What comes of receiving. -/
inductive Receipt where
  | chunk (data : Bytes)
  | failed (e : PipeError)
  | waiting

/-- The chunk that was received, if one was. -/
def Receipt.chunk? : Receipt → Option Bytes
  | chunk data => some data
  | _ => none

/-- Receives the next chunk. -/
def receive (p : Pipe) : Pipe × Receipt :=
  if !p.connected then (p, .failed .disconnected)
  else
    match p.incoming with
    | data :: _ => (p.move .receive, .chunk data)
    | [] => (p, if p.reader = .working then .waiting else .failed .disconnected)

/-- Closes the pipe. -/
def close (p : Pipe) : Pipe := p.move .close

/-! ## What the workers do -/

/-- What the writer does next, when the child's input takes something or does not. -/
def writerMove? (p : Pipe) (childListens : Bool) : Option Move :=
  if p.writer != .working then none
  else if !p.holding.isEmpty then
    some (if childListens then .write p.holding.length else .failWrite)
  else if !p.outgoing.isEmpty then some .takeUp
  else if !p.connected then some .closeInput
  else none

/-- What the reader does next. -/
def readerMove? (p : Pipe) : Option Move :=
  if p.reader != .working then none
  else if !p.output.isEmpty then some (.read (min chunkLimit p.output.length))
  else if !p.outputOpen then some .finish
  else none

/-- What either worker does next. -/
def workerMove? (p : Pipe) (childListens : Bool) : Option Move :=
  p.writerMove? childListens <|> p.readerMove?

end Pipe

end ServerLink.Process
