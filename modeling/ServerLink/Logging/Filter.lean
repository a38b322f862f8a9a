import ServerLink.Log
import ServerLink.Text.Blank
import ServerLink.Text.Decimal

/-!
# Which records are written

A filter is a run of **directives** with commas between them.  A directive gives a level, or a
target and a level; a target alone admits everything under it.  Among the directives whose target
begins that of a record the one with the longest target decides.

* `Filter.Directive`, `Filter.readDirective` — a directive and its text.
* `Filter.read` — the filter of a text; no directive at all admits nothing.
* `Filter.ofText` — the same, with the usual filter where the text is none.
* `Filter.admits` — whether a record is written.

Blanks around a directive are looked past when it is read, and yet remain part of its words.
-/

namespace ServerLink.Filter

/-- A directive: the records of a target up to a level, or no records at all.  A directive for a
span of the program, of which there are none, matches nothing. -/
structure Directive where
  target : Option String
  level : Option Log.Level
  span : Bool
deriving DecidableEq, Repr

/-- The names of the levels, and their numbers. -/
def levelNames : List (List Char × Option Log.Level) :=
  [("off".toList, none), ("error".toList, some .error), ("warn".toList, some .warn),
    ("info".toList, some .info), ("debug".toList, some .debug), ("trace".toList, some .trace)]

/-- The level of a number, zero for none. -/
def levelOfNumber? (n : Nat) : Option (Option Log.Level) :=
  (levelNames[n]?).map (·.2)

/-- The level of a word: a number or a name in letters of either case. -/
def level? (word : List Char) : Option (Option Log.Level) :=
  ((Decimal.natBelow? Decimal.limit64 word).bind levelOfNumber?)
    <|> ((levelNames.find? fun e => Text.sameIgnoringCase e.1 word).map (·.2))

/-- Whether a directive may begin with a character. -/
def isBeginning (c : Char) : Bool :=
  c.isAlphanum || c = '-' || c = ':' || c = '_' || (0x80 ≤ c.toNat && !Text.isBlank c)

/-- A directive of one word: a level, or a target. -/
def ofWord (word : List Char) : Directive :=
  match level? word with
  | some level => ⟨none, level, false⟩
  | none => ⟨some (String.ofList word), some .trace, false⟩

/-- The level after an equals sign; nothing stands for everything. -/
def readLevel (word : List Char) : Option (Option Log.Level) :=
  if word.isEmpty then some (some .trace) else level? word

/-- Reads a directive that names a span. -/
def readSpan (text : List Char) : Option Directive :=
  match Text.splitAtFirst ']' text with
  | none => none
  | some (_, []) => some ⟨none, some .trace, true⟩
  | some (_, '=' :: word) => (readLevel word).map fun level => ⟨none, level, true⟩
  | some _ => none

/-- Reads a directive.  Where its words begin and end is counted without the blanks in front, and
what stands there is taken with them. -/
def readDirective (text : List Char) : Option Directive :=
  let trimmed := Text.trim text
  match trimmed with
  | [] => none
  | c :: rest =>
    if c = '[' then readSpan rest
    else if !isBeginning c then none
    else
      let name := trimmed.takeWhile fun c => c != '=' && c != '['
      match trimmed.drop name.length with
      | [] => some (ofWord text)
      | '=' :: _ =>
        (readLevel (text.drop (name.length + 1))).map fun level =>
          ⟨some (String.ofList (text.take name.length)), level, false⟩
      | _ :: rest => readSpan rest

/-- The directives of a text, if all of them can be read; a later one replaces an earlier one of the
same target. -/
def read (text : String) : Option (List Directive) :=
  ((Text.splitOn ',' text.toList).filter (!·.isEmpty)).mapM readDirective

/-- The filter that is used where a text is none. -/
def usual : List Directive := [⟨none, some .info, false⟩]

/-- The filter of a text. -/
def ofText (text : String) : List Directive := (read text).getD usual

/-- Whether a directive is for the records of a target. -/
def Directive.covers (d : Directive) (target : String) : Bool :=
  !d.span && d.target.all fun t => t.toList.isPrefixOf target.toList

/-- How closely a directive names its target. -/
def Directive.closeness (d : Directive) : Nat :=
  match d.target with
  | some t => t.utf8ByteSize + 1
  | none => 0

/-- The closer of two directives; the later one of two that are equally close. -/
def closer (best : Option Directive) (d : Directive) : Option Directive :=
  match best with
  | some b => if d.closeness < b.closeness then some b else some d
  | none => some d

/-- The directive that decides about a target. -/
def deciding? (f : List Directive) (target : String) : Option Directive :=
  (f.filter (·.covers target)).foldl closer none

/-- Whether a record is written. -/
def admits (f : List Directive) (r : Log.Record) : Bool :=
  match (deciding? f r.target).bind (·.level) with
  | some level => r.line.level.rank ≤ level.rank
  | none => false

end ServerLink.Filter
