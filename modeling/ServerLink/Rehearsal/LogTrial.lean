import ServerLink.Logging.Sink
import ServerLink.Rehearsal.Site

/-!
# A trial of the log

The log is set up twice, and a few records of every level are given to it.

* `LogTrial` — what comes of it: why it could not be set up, and what was written where.
* `LogTrial.run` — the trial, with a file that may be there already.
-/

namespace ServerLink.Rehearsal

/-- What comes of a trial. -/
structure LogTrial where
  /-- Why the log could not be set up the first time. -/
  first : Option String
  /-- Why it could not be set up once more. -/
  second : Option String
  coloured : Bool
  errors : List Written
  /-- What the file holds, if it is there. -/
  file : Option (List Written)

namespace LogTrial

/-- The name of the file. -/
def fileName : String := "x.log"

/-- The records that are given to the log. -/
def records : List Log.Record :=
  [.of "confit_client::a" (Log.error "an error"),
    .of "confit_client::a" (Log.warn "a warning"),
    .of "confit_client::b" (Log.info "some info"),
    .of "confit_client::b" (Log.debug "a debug line"),
    .of "confit_client::b" ⟨.trace, "a trace line"⟩,
    .of "other" (Log.error "other error"),
    .of "other" (Log.info "other info"),
    .of "other" (Log.debug "other debug")]

/-- The lines of a text. -/
def linesOf (s : String) : List Written :=
  (Text.lines s.toList).map fun l => .text (String.ofList l)

/-- The trial of a configuration; a file is there already if it has a content. -/
def run (c : LogConfig) (existing : Option String) : LogTrial :=
  let start := Site.place ["tmp", Site.rootName]
  let files := (Site.machine (existing.toList.map fun t =>
    .write (Path.ofString fileName) (Utf8.ofString t))).files
  match Sink.open? c files start with
  | .error e => ⟨some e.message, some e.message, false, [], none⟩
  | .ok (sink, _) =>
    let written := sink.write records
    let old := existing.map linesOf
    if sink.file.isSome then
      ⟨none, some Sink.secondText, false, [], some (old.getD [] ++ written)⟩
    else ⟨none, some Sink.secondText, sink.isColoured && !written.isEmpty, written, old⟩

end LogTrial

end ServerLink.Rehearsal
