import ServerLink.Files
import ServerLink.Logging.Config
import ServerLink.Logging.Filter

/-!
# Where records go

Records go to standard error, or to the end of a file when one is configured.  There can be one sink
only.

* `Sink.open?` — the sink of a configuration, or why its file cannot be written.
* `Sink.write` — the lines of records that pass the filter.
* `Sink.showAll` — where everything goes that is shown; notices reach the user on standard error
  too.
-/

namespace ServerLink

/-- A line that is written: a record in one of two forms, or a text. -/
inductive Written where
  | record (asJson : Bool) (r : Log.Record)
  | text (s : String)

/-- A sink for records. -/
structure Sink where
  filter : List Filter.Directive
  /-- The place of the file, unless records go to standard error. -/
  file : Option (List Bytes)
  json : Bool

namespace Sink

/-- Why there is no second sink. -/
def secondText : String := "a global default trace dispatcher has already been set"

/-- The place of a file that is to be written at its end, and made if it is not there. -/
def placeFor (files : Files) (start : List Bytes) (p : Path) : Except SystemError (List Bytes) :=
  match files.locate start p with
  | .ok place => if files.find? place = some .directory then .error .isDirectory else .ok place
  | .error e =>
    if e != .notFound || p.bytes.isEmpty then .error e
    else if Files.asksDirectory p then .error .isDirectory
    else
      match p.fileName?, p.parent? with
      | some name, some parent =>
        let directory := if parent.bytes.isEmpty then .ok start else files.locate start parent
        match directory with
        | .error e => .error e
        | .ok place =>
          if files.find? place = some .directory then .ok (place ++ [name])
          else .error .notDirectory
      | _, _ => .error e

/-- The sink of a configuration, seen from a place; its file is there from then on. -/
def open? (c : LogConfig) (files : Files) (start : List Bytes) :
    Except SystemError (Sink × Files) :=
  let filter := Filter.ofText c.level
  match c.file with
  | none => .ok (⟨filter, none, c.json⟩, files)
  | some p =>
    (placeFor files start p).map fun place =>
      (⟨filter, some place, c.json⟩,
        if (files.find? place).isSome then files else files.put place (.file []))

/-- The lines of records that pass the filter. -/
def write (s : Sink) (records : List Log.Record) : List Written :=
  (records.filter (Filter.admits s.filter)).map (.record s.json)

/-- What is written, on standard error and in the file. -/
structure Output where
  errors : List Written
  file : List Written

/-- Writes one more thing. -/
def Output.add (s : Sink) (o : Output) (shown : Log.Shown) : Output :=
  let put (o : Output) (r : Log.Record) : Output :=
    let w := s.write [r]
    if s.file.isSome then { o with file := o.file ++ w } else { o with errors := o.errors ++ w }
  match shown with
  | .record r => put o r
  | .notice t =>
    let o := put o (.of Log.noticeTarget (Log.error t))
    { o with errors := o.errors ++ [.text ("error: " ++ t)] }

/-- Where everything goes that is shown. -/
def showAll (s : Sink) (shown : List Log.Shown) : Output := shown.foldl (Output.add s) ⟨[], []⟩

/-- Whether records on standard error are coloured. -/
def isColoured (s : Sink) : Bool := s.file.isNone && !s.json

end Sink

end ServerLink
