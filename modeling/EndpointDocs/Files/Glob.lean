import EndpointDocs.Text.CodePoint

/-!
Patterns for file names. A star stands for any text, a question mark for any character, and
brackets for one character of a set, which may have ranges and may be negated by an exclamation
mark. A bracket that is never closed stands for itself, as does everything else.
-/
namespace EndpointDocs.Glob

/-- The members of a set between brackets: single characters and ranges. -/
structure CharSet where
  negated : Bool
  singles : List CodePoint
  ranges : List (CodePoint × CodePoint)
  deriving DecidableEq, Repr

inductive Part where
  | anything
  | anyChar
  | char (c : CodePoint)
  | set (members : CharSet)
  deriving DecidableEq, Repr

def CharSet.holds (set : CharSet) (c : CodePoint) : Bool :=
  let listed := set.singles.contains c || set.ranges.any fun (low, high) => low ≤ c && c ≤ high
  if set.negated then !listed else listed

/-- Cuts the inside of brackets at the hyphens that form ranges. A piece other than the first has at
least two characters before a hyphen counts again, the first has at least `least`. -/
def rangePieces (least : Nat) (piece : List CodePoint) : List CodePoint → List (List CodePoint)
  | [] => [piece.reverse]
  | c :: rest =>
    if c == .char '-' && least ≤ piece.length then piece.reverse :: rangePieces 2 [] rest
    else rangePieces least (c :: piece) rest

/-- A hyphen at the very end forms no range and belongs to the piece before it. -/
def joinTrailing : List (List CodePoint) → List (List CodePoint)
  | [piece, []] => [piece ++ [.char '-']]
  | piece :: rest => piece :: joinTrailing rest
  | [] => []

/-- Drops ranges that run backwards, with their ends, from the right. -/
def dropBackward : List (List CodePoint) → List (List CodePoint)
  | [] => []
  | piece :: rest =>
    match dropBackward rest with
    | [] => [piece]
    | next :: others =>
      match piece.getLast?, next.head? with
      | some low, some high =>
        if high < low then (piece.dropLast ++ next.drop 1) :: others else piece :: next :: others
      | _, _ => piece :: next :: others

def rangesOf : List (List CodePoint) → List (CodePoint × CodePoint)
  | piece :: next :: rest =>
    match piece.getLast?, next.head? with
    | some low, some high => (low, high) :: rangesOf (next :: rest)
    | _, _ => rangesOf (next :: rest)
  | _ => []

/-- The set that pieces describe. A hyphen with no piece before it forms no range and is a member.
-/
def CharSet.ofPieces (negated : Bool) (pieces : List (List CodePoint)) : CharSet :=
  match pieces with
  | [] :: next :: rest => ⟨negated, .char '-' :: (next :: rest).flatten, rangesOf (next :: rest)⟩
  | pieces => ⟨negated, pieces.flatten, rangesOf pieces⟩

/-- The set that the inside of brackets describes. Whether it is negated is decided when the ranges
that run backwards are gone, since the exclamation mark may come first only then. -/
def CharSet.ofInside (inside : List CodePoint) : CharSet :=
  let least := if inside.head? = some (.char '!') then 2 else 1
  let pieces :=
    if inside.contains (.char '-') then dropBackward (joinTrailing (rangePieces least [] inside))
    else [inside]
  match pieces with
  | (.char '!' :: first) :: rest => .ofPieces true (first :: rest)
  | pieces => .ofPieces false pieces

/-- The inside of brackets and what follows them, if they are closed. A closing bracket right after
the opening one, or after its exclamation mark, is a member. -/
def bracket? (pattern : List CodePoint) : Option (List CodePoint × List CodePoint) :=
  let lead := if pattern.head? = some (.char '!') then 1 else 0
  let lead := if (pattern.drop lead).head? = some (.char ']') then lead + 1 else lead
  let tail := pattern.drop lead
  let inside := tail.takeWhile (· != .char ']')
  match tail.dropWhile (· != .char ']') with
  | _ :: rest => some (pattern.take lead ++ inside, rest)
  | [] => none

/-- The parts of a pattern, read in at most `fuel` steps. -/
def partsFrom : Nat → List CodePoint → List Part
  | 0, _ => []
  | _ + 1, [] => []
  | fuel + 1, c :: rest =>
    if c == .char '*' then .anything :: partsFrom fuel rest
    else if c == .char '?' then .anyChar :: partsFrom fuel rest
    else if c == .char '[' then
      match bracket? rest with
      | some (inside, rest) => .set (.ofInside inside) :: partsFrom fuel rest
      | none => .char c :: partsFrom fuel rest
    else .char c :: partsFrom fuel rest

/-- The parts of a pattern; each takes at least one character. -/
def parts (pattern : List CodePoint) : List Part :=
  partsFrom pattern.length pattern

/-- Whether a part that stands for one character stands for this one. -/
def Part.holds : Part → CodePoint → Bool
  | .anything, _ => false
  | .anyChar, _ => true
  | .char c, d => c == d
  | .set members, d => members.holds d

/-- For each end of a list of answers, whether it has a positive one. -/
def anyLater : List Bool → List Bool
  | [] => []
  | answer :: rest =>
    let later := anyLater rest
    (answer || later.headD false) :: later

/-- For each end of a name, whether its first character is held by `part` and what follows has a
positive answer. -/
def holdsThen (part : Part) : List CodePoint → List Bool → List Bool
  | c :: name, _ :: answers => (part.holds c && answers.headD false) :: holdsThen part name answers
  | _, _ => [false]

/-- For each end of a name, the longest first, whether the parts match it. All ends are answered at
once, so that a star costs no more than any other part. -/
def matchesEnds : List Part → List CodePoint → List Bool
  | [], name => name.map (fun _ => false) ++ [true]
  | .anything :: parts, name => anyLater (matchesEnds parts name)
  | part :: parts, name => holdsThen part name (matchesEnds parts name)

def matchesParts (parts : List Part) (name : List CodePoint) : Bool :=
  (matchesEnds parts name).headD false

def matchesName (pattern name : Wide) : Bool :=
  matchesParts (parts pattern) name

end EndpointDocs.Glob
