import ServerLink.Path

/-!
# Patterns of paths

A pattern is matched against the bytes of a whole path.  `?` is one byte and `*` any number of
bytes of one component; `**` between slashes is any number of components; brackets hold a class of
bytes, braces a choice of patterns.

* `Glob.Token` — the parts of a pattern.
* `Glob.Fault`, `Glob.Fault.message` — why a text is no pattern.
* `Glob.read` — the parts of a text.
* `Glob.Token.step` — **matching**: what may be left of a path after a part has taken its share.
* `Glob.Pattern` — a text with its parts; `Pattern.accepts` asks whether nothing may be left.

A class may take a slash; `?` and `*` may not.  A character of a class that has several bytes puts
each of its bytes into the class.
-/

namespace ServerLink.Glob

/-- A part of a pattern. -/
inductive Token where
  | literal (c : Char)
  | single
  | star
  | deepStart
  | deepEnd
  | deepMiddle
  | oneOf (negated : Bool) (ranges : List (Char × Char))
  | branches (choices : List (List Token))
deriving Repr

/-- Why a text is no pattern. -/
inductive Fault where
  | unclosedClass
  | badRange (low high : Char)
  | unopenedGroup
  | unclosedGroup
  | danglingEscape
deriving DecidableEq, Repr

/-- The wording of a fault of a pattern. -/
def Fault.message (pattern : String) (f : Fault) : String :=
  let cause := match f with
    | unclosedClass => "unclosed character class; missing ']'"
    | badRange low high =>
      "invalid range; '" ++ String.ofList [low] ++ "' > '" ++ String.ofList [high] ++ "'"
    | unopenedGroup =>
      "unopened alternate group; missing '\x7b' (maybe escape '\x7d' with '[\x7d]'?)"
    | unclosedGroup =>
      "unclosed alternate group; missing '\x7d' (maybe escape '\x7b' with '[\x7b]'?)"
    | danglingEscape => "dangling '\\'"
  "error parsing glob '" ++ pattern ++ "': " ++ cause

/-! ## Classes -/

/-- A class that is being read: its ranges in reverse, whether a first member has been seen, and
whether a dash after one waits for the end of a range. -/
structure ClassSoFar where
  ranges : List (Char × Char)
  begun : Bool
  inRange : Bool

/-- The class with one more member. -/
def ClassSoFar.add (s : ClassSoFar) (c : Char) : Except Fault ClassSoFar :=
  if s.inRange then
    match s.ranges with
    | (low, _) :: rest =>
      if c < low then .error (.badRange low c) else .ok ⟨(low, c) :: rest, true, false⟩
    | [] => .ok ⟨[(c, c)], true, false⟩
  else .ok ⟨(c, c) :: s.ranges, true, false⟩

/-- The ranges of a class that has ended; a dash that still waits is a member. -/
def ClassSoFar.finish (s : ClassSoFar) : List (Char × Char) :=
  (if s.inRange then ('-', '-') :: s.ranges else s.ranges).reverse

/-- Reads the members of a class up to its closing bracket. -/
def readMembers (s : ClassSoFar) : List Char → Except Fault (List (Char × Char) × List Char)
  | [] => .error .unclosedClass
  | c :: rest =>
    if c = ']' && s.begun then .ok (s.finish, rest)
    else if c = '-' && s.begun && !s.inRange then readMembers { s with inRange := true } rest
    else
      match s.add c with
      | .ok s => readMembers s rest
      | .error f => .error f

theorem readMembers_shorter {s : ClassSoFar} {cs : List Char} {ranges : List (Char × Char)}
    {rest : List Char} (h : readMembers s cs = .ok (ranges, rest)) : rest.length < cs.length := by
  fun_induction readMembers s cs with
  | case1 => simp at h
  | case2 s c tail _ =>
    simp only [Except.ok.injEq, Prod.mk.injEq] at h
    obtain ⟨-, rfl⟩ := h
    simp
  | case3 s c tail _ _ ih => have := ih h; simp only [List.length_cons]; omega
  | case4 s c tail _ _ s' _ ih => have := ih h; simp only [List.length_cons]; omega
  | case5 => simp at h

/-- Reads a class, after its opening bracket. -/
def readClass (cs : List Char) : Except Fault (Token × List Char) :=
  let negated := cs.head? = some '!' || cs.head? = some '^'
  (readMembers ⟨[], false, false⟩ (if negated then cs.tail else cs)).map fun (ranges, rest) =>
    (.oneOf negated ranges, rest)

theorem readClass_shorter {cs : List Char} {t : Token} {rest : List Char}
    (h : readClass cs = .ok (t, rest)) : rest.length < cs.length := by
  simp only [readClass, Except.map] at h
  split at h
  · simp at h
  · rename_i v hv
    obtain ⟨ranges, rest'⟩ := v
    simp only [Except.ok.injEq, Prod.mk.injEq] at h
    obtain ⟨-, rfl⟩ := h
    have := readMembers_shorter hv
    split at this
    · simp only [List.length_tail] at this; omega
    · exact this

/-! ## Groups -/

/-- A group that is open: the branches before the one being read, in reverse, and the parts in front
of the group, in reverse. -/
structure Group where
  before : List (List Token)
  outer : List Token

/-- A pattern that is being read: the parts of the branch at hand, in reverse, and the groups around
it, innermost first. -/
structure SoFar where
  current : List Token
  groups : List Group

/-- One more part. -/
def SoFar.push (s : SoFar) (t : Token) : SoFar := { s with current := t :: s.current }

/-- A group opens. -/
def SoFar.opened (s : SoFar) : SoFar := ⟨[], ⟨[], s.current⟩ :: s.groups⟩

/-- A comma: the next branch of a group, or itself. -/
def SoFar.comma (s : SoFar) : SoFar :=
  match s.groups with
  | [] => s.push (.literal ',')
  | g :: rest => ⟨[], { g with before := s.current.reverse :: g.before } :: rest⟩

/-- A group closes. -/
def SoFar.closed (s : SoFar) : Except Fault SoFar :=
  match s.groups with
  | [] => .error .unopenedGroup
  | g :: rest =>
    .ok ⟨.branches (s.current.reverse :: g.before).reverse :: g.outer, rest⟩

/-- Two stars, by the character before and the one after them: the pattern with what they mean, and
whether a slash behind them is part of it. -/
def SoFar.doubleStar (s : SoFar) (prev next : Option Char) : SoFar × Bool :=
  let plain := ((s.push .star).push .star, false)
  if s.current.isEmpty then
    if next = none || next = some '/' then (s.push .deepStart, true) else plain
  -- stars that do not begin a component are two stars and no more
  else if prev != some '/' && (s.groups.isEmpty || (prev != some ',' && prev != some '\x7b')) then
    plain
  else
    let replace (t : Token) : SoFar :=
      match s.current with
      | .deepStart :: _ | .deepEnd :: _ => s
      | _ :: rest => { s with current := t :: rest }
      | [] => s.push t
    if next = none || ((next = some ',' || next = some '\x7d') && !s.groups.isEmpty) then
      (replace .deepEnd, false)
    else if next = some '/' then (replace .deepMiddle, true)
    else plain

/-! ## Reading -/

/-- Reads a pattern after the character `prev`. -/
def readFrom (s : SoFar) (prev : Option Char) (cs : List Char) : Except Fault SoFar :=
  match cs with
  | [] => .ok s
  | '?' :: rest => readFrom (s.push .single) (some '?') rest
  | '*' :: '*' :: rest =>
    let (s, takesSlash) := s.doubleStar prev rest.head?
    match takesSlash, rest with
    | true, c :: rest => readFrom s (some c) rest
    | _, rest => readFrom s (some '*') rest
  | '*' :: rest => readFrom (s.push .star) (some '*') rest
  | '[' :: rest =>
    match _h : readClass rest with
    | .error f => .error f
    | .ok (t, after) => readFrom (s.push t) (some ']') after
  | '\x7b' :: rest => readFrom s.opened (some '\x7b') rest
  | '\x7d' :: rest =>
    match s.closed with
    | .error f => .error f
    | .ok s => readFrom s (some '\x7d') rest
  | ',' :: rest => readFrom s.comma (some ',') rest
  | '\\' :: c :: rest => readFrom (s.push (.literal c)) (some c) rest
  | ['\\'] => .error .danglingEscape
  | c :: rest => readFrom (s.push (.literal c)) (some c) rest
termination_by cs.length
decreasing_by
  all_goals simp only [List.length_cons]
  all_goals first
    | omega
    | exact Nat.lt_succ_of_lt (readClass_shorter (by assumption))

/-- Reads a pattern. -/
def read (cs : List Char) : Except Fault (List Token) :=
  match readFrom ⟨[], []⟩ none cs with
  | .error f => .error f
  | .ok s => if s.groups.isEmpty then .ok s.current.reverse else .error .unclosedGroup

/-! ## Matching -/

/-- A text with each of its ends: itself and all that is left after some of its bytes. -/
def tails : Bytes → List Bytes
  | [] => [[]]
  | b :: rest => (b :: rest) :: tails rest

/-- What is left after each slash. -/
def afterSlashes : Bytes → List Bytes
  | [] => []
  | b :: rest => if b = Path.slash then rest :: afterSlashes rest else afterSlashes rest

/-- What is left after some bytes other than slashes. -/
def withinComponent : Bytes → List Bytes
  | [] => [[]]
  | b :: rest => if b = Path.slash then [b :: rest] else (b :: rest) :: withinComponent rest

/-- Whether a byte lies in a range of characters: the bytes of both ends belong to it, and so do
those between the last byte of the lower and the first of the upper end. -/
def inRange (b : UInt8) (range : Char × Char) : Bool :=
  let low := Utf8.encodeChar range.1
  let high := Utf8.encodeChar range.2
  low.contains b || high.contains b ||
    (range.1 != range.2 && low.getLastD 0 ≤ b && b ≤ high.headD 0)

/-- Whether a byte lies in a class. -/
def inClass (negated : Bool) (ranges : List (Char × Char)) (b : UInt8) : Bool :=
  ranges.any (inRange b) != negated

/-- Each end once.  Ends of one text are equal when they are equally long. -/
def distinct : List Bytes → List Bytes
  | [] => []
  | s :: rest =>
    let later := distinct rest
    if later.any (·.length == s.length) then later else s :: later

mutual
/-- Whether a part stands for no text at all: a choice without branches that hold anything. -/
def Token.isVoid : Token → Bool
  | .branches choices => allVoid choices
  | _ => false
/-- Whether a branch holds nothing. -/
def isVoidBranch : List Token → Bool
  | [] => true
  | t :: rest => t.isVoid && isVoidBranch rest
/-- Whether all branches hold nothing. -/
def allVoid : List (List Token) → Bool
  | [] => true
  | b :: rest => isVoidBranch b && allVoid rest
end

mutual
/-- What may be left of a text after a part of a pattern.  Branches that hold nothing are no choice,
unless there is no other. -/
def Token.step : Token → Bytes → List Bytes
  | .literal c, s =>
    let bs := Utf8.encodeChar c
    if bs.isPrefixOf s then [s.drop bs.length] else []
  | .single, s =>
    match s with
    | b :: rest => if b = Path.slash then [] else [rest]
    | [] => []
  | .star, s => withinComponent s
  | .deepStart, s => distinct (s :: afterSlashes s)
  | .deepEnd, s =>
    match s with
    | b :: rest => if b = Path.slash then tails rest else []
    | [] => []
  | .deepMiddle, s =>
    match s with
    | b :: rest => if b = Path.slash then rest :: afterSlashes rest else []
    | [] => []
  | .oneOf negated ranges, s =>
    match s with
    | b :: rest => if inClass negated ranges b then [rest] else []
    | [] => []
  | .branches choices, s => if allVoid choices then [s] else distinct (stepAny choices s)
/-- What may be left of texts after the parts of a pattern, one after another. -/
def stepAll : List Token → List Bytes → List Bytes
  | [], left => left
  | t :: rest, left => stepAll rest (distinct (left.flatMap fun s => t.step s))
/-- What may be left of a text after one of several branches. -/
def stepAny : List (List Token) → Bytes → List Bytes
  | [], _ => []
  | b :: rest, s => (if isVoidBranch b then [] else stepAll b [s]) ++ stepAny rest s
end

/-- Whether parts match a whole text.  `**` alone matches every text. -/
def accepts (tokens : List Token) (s : Bytes) : Bool :=
  match tokens with
  | [.deepStart] => true
  | _ => (stepAll tokens [s]).any (·.isEmpty)

/-- A pattern with its text; two patterns are the same when their texts are. -/
structure Pattern where
  text : String
  tokens : List Token

/-- The pattern of a text. -/
def Pattern.ofText (text : String) : Except Fault Pattern :=
  (read text.toList).map fun tokens => ⟨text, tokens⟩

/-- Whether a pattern matches a path. -/
def Pattern.accepts (p : Pattern) (path : Path) : Bool := Glob.accepts p.tokens path.bytes

end ServerLink.Glob
