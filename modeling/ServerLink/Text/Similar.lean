/-!
# Words that look alike

How alike two words are is a number between zero and one.  Two characters **correspond** when they
are equal and their places are not far apart; each character corresponds to one other at most.  The
number is the mean of three shares: of the first word and of the second that correspond, and of the
corresponding characters that are in the same order in both.

* `Similar.correspond` — the corresponding characters, in the order of each word.
* `Similar.Score`, `Similar.score` — the number, as a fraction.
* `Similar.best?` — the word of a list that looks most like another, if it looks like it at all.
-/

namespace ServerLink.Similar

/-- Finds a free character between two places, and takes it. -/
def takeBetween (c : Char) (low high : Nat) :
    (place : Nat) → List (Char × Bool) → Option (List (Char × Bool))
  | _, [] => none
  | place, (d, taken) :: rest =>
    if high ≤ place then none
    else if low ≤ place && c = d && !taken then some ((d, true) :: rest)
    else (takeBetween c low high (place + 1) rest).map ((d, taken) :: ·)

/-- The characters of a word from some place on that correspond to a free one of another word, and
the other word after it. -/
def takeAll (range : Nat) : (place : Nat) → List Char → List (Char × Bool) →
    List Char × List (Char × Bool)
  | _, [], other => ([], other)
  | place, c :: rest, other =>
    match takeBetween c (place - range) (place + range + 1) 0 other with
    | some other =>
      let (more, other) := takeAll range (place + 1) rest other
      (c :: more, other)
    | none => takeAll range (place + 1) rest other

/-- The corresponding characters, in the order of each word. -/
def correspond (a b : List Char) : List Char × List Char :=
  let range := max a.length b.length / 2 - 1
  let (first, other) := takeAll range 0 a (b.map fun c => (c, false))
  (first, (other.filter (·.2)).map (·.1))

/-- A fraction. -/
structure Score where
  numerator : Nat
  denominator : Nat
deriving DecidableEq, Repr

/-- Whether one fraction is less than another. -/
def Score.isLess (s t : Score) : Bool := s.numerator * t.denominator < t.numerator * s.denominator

/-- How alike two words are. -/
def score (a b : List Char) : Score :=
  if a.isEmpty && b.isEmpty then ⟨1, 1⟩
  else
    let (first, second) := correspond a b
    let m := first.length
    let swapped := ((first.zip second).filter fun p => p.1 != p.2).length / 2
    if m = 0 then ⟨0, 1⟩
    else
      let (k, l) := (a.length, b.length)
      ⟨m * m * l + m * m * k + (m - swapped) * k * l, 3 * k * l * m⟩

/-- The least number for which words look alike; they have to be above it. -/
def threshold : Score := ⟨7, 10⟩

/-- The better of two words for a third, the second one if neither is better. -/
def better (word : List Char) (best : Option String) (candidate : String) : Option String :=
  let s := score word candidate.toList
  if !threshold.isLess s then best
  else
    match best with
    | some b => if s.isLess (score word b.toList) then some b else some candidate
    | none => some candidate

/-- The word that looks most like another, the last one of several. -/
def best? (word : String) (candidates : List String) : Option String :=
  candidates.foldl (better word.toList) none

end ServerLink.Similar
