import EndpointDocs.Number.Numeral
import EndpointDocs.Yaml.Cursor
import EndpointDocs.Yaml.Error

/-!
The texts of scalars: plain ones, quoted ones, and blocks. Line breaks inside plain and quoted
scalars and folded blocks are folded: one line feed becomes a blank, more become one less, and any
other break is kept. Each reader takes as many steps as `fuel` says, for which the length of the
whole text is enough.
-/
namespace EndpointDocs.Yaml

/-- What a line break and the breaks after it become where lines are folded. -/
def folded (line breaks : List Char) : List Char :=
  if line != ['\n'] then line ++ breaks else if breaks.isEmpty then [' '] else breaks

/-- How plain scalars are read: whether in a flow collection, and whether a question mark ends one
there. -/
structure PlainStyle where
  inFlow : Bool
  questionEnds : Bool
  deriving DecidableEq, Repr

/-- Whether a character other than a colon ends a run of a plain scalar. -/
def PlainStyle.ends (style : PlainStyle) (c : Char) : Bool :=
  endsWord c || (style.inFlow && (isFlowMark c || (style.questionEnds && c == '?')))

/-- The longest run of characters of a plain scalar, added to `taken` in reverse. A colon belongs to
it only before a character that goes on with a word. -/
def plainRun (style : PlainStyle) (taken : List Char) : List Char → List Char
  | [] => taken
  | c :: rest =>
    if c == ':' then
      if endsWord (rest.head?.getD endMark) then taken else plainRun style (c :: taken) rest
    else if style.ends c then taken
    else plainRun style (c :: taken) rest

/-- Breaks between the lines of a plain scalar, with the blanks around them; nothing if a document
mark follows one of them. -/
def plainBreaks (cursor : Cursor) (breaks : List Char) : Nat → Option (List Char) × Cursor
  | 0 => (none, cursor)
  | fuel + 1 =>
    if cursor.peek == ' ' then plainBreaks cursor.next breaks fuel
    else if isBreak cursor.peek then
      let (line, cursor) := cursor.lineBreak
      if cursor.atDocumentMark then (none, cursor) else plainBreaks cursor (breaks ++ line) fuel
    else (some breaks, cursor)

/-- What joins two runs of a plain scalar, nothing if it ends here, and whether a line was left. -/
def plainSpaces (cursor : Cursor) (fuel : Nat) : List Char × Cursor × Bool :=
  let (blanks, cursor) := cursor.span (· == ' ')
  if isBreak cursor.peek then
    let (line, cursor) := cursor.lineBreak
    if cursor.atDocumentMark then ([], cursor, true)
    else
      match plainBreaks cursor [] fuel with
      | (some breaks, cursor) => (folded line breaks, cursor, true)
      | (none, cursor) => ([], cursor, true)
  else (blanks, cursor, false)

/-- The text of a plain scalar, in reverse, added to what is `taken` already; the place behind it;
and whether a line was left, so that a key may follow. -/
def plainFrom (style : PlainStyle) (indent : Int) (cursor : Cursor) (taken joint : List Char)
    (leftLine : Bool) : Nat → List Char × Cursor × Bool
  | 0 => (taken, cursor, leftLine)
  | fuel + 1 =>
    let run := if cursor.peek == '#' then [] else plainRun style [] cursor.rest
    if run.isEmpty then (taken, cursor, leftLine)
    else
      let taken := run ++ (joint.reverse ++ taken)
      let (spaces, cursor, leftLine) := plainSpaces (cursor.skip run.length) fuel
      if spaces.isEmpty || cursor.peek == '#' || (!style.inFlow && cursor.column < indent) then
        (taken, cursor, leftLine)
      else plainFrom style indent cursor taken spaces leftLine fuel

/-- A plain scalar in a collection indented by `indent`. -/
def plainScalar (style : PlainStyle) (indent : Int) (cursor : Cursor) (fuel : Nat) :
    List Char × Cursor × Bool :=
  let (taken, cursor, leftLine) := plainFrom style (indent + 1) cursor [] [] false fuel
  (taken.reverse, cursor, leftLine)

/-- The breaks between the lines of a quoted scalar; a document mark must not stand there. -/
def quotedBreaks (cursor : Cursor) (breaks : List Char) : Nat → Except Error (List Char × Cursor)
  | 0 => .error .malformed
  | fuel + 1 =>
    if cursor.atDocumentMark then .error .malformed
    else
      let cursor := cursor.skipWhile isBlankOrTab
      if isBreak cursor.peek then
        let (line, cursor) := cursor.lineBreak
        quotedBreaks cursor (breaks ++ line) fuel
      else .ok (breaks, cursor)

def escapeChar? (c : Char) : Option Char :=
  [('0', 0x0), ('a', 0x7), ('b', 0x8), ('t', 0x9), ('\t', 0x9), ('n', 0xA), ('v', 0xB), ('f', 0xC),
    ('r', 0xD), ('e', 0x1B), (' ', 0x20), ('"', 0x22), ('/', 0x2F), ('\\', 0x5C), ('N', 0x85),
    ('_', 0xA0), ('L', 0x2028), ('P', 0x2029)].lookup c |>.map Char.ofNat

/-- The number of hexadecimal digits after the letter of an escape. -/
def escapeDigits? (c : Char) : Option Nat :=
  if c == 'x' then some 2 else if c == 'u' then some 4 else if c == 'U' then some 8 else none

/-- The code that an escape with `count` digits gives, and the place behind it. -/
def escapeCode? (cursor : Cursor) (count : Nat) : Option (Nat × Cursor) :=
  let digits := cursor.rest.take count
  if digits.length == count && digits.all (Numeral.digitValue? · |>.isSome) then
    some (Numeral.digitsValue 16 digits, cursor.skip count)
  else none

/-- The code point of a code. Halves of surrogate pairs stand for themselves. -/
def codePoint (code : Nat) : Except Error CodePoint :=
  if 0x10FFFF < code then .error (.noCharacter code) else .ok (.ofNumber code)

/-- What an escape stands for, and the place behind it. -/
def escapeAt (cursor : Cursor) (fuel : Nat) : Except Error (Wide × Cursor) :=
  let c := cursor.peek
  match escapeChar? c, escapeDigits? c with
  | some plain, _ => .ok ([.char plain], cursor.next)
  | none, some count =>
    match escapeCode? cursor.next count with
    | some (code, cursor) =>
      match codePoint code with
      | .ok point => .ok ([point], cursor)
      | .error error => .error error
    | none => .error .malformed
  | none, none =>
    if isBreak c then
      (quotedBreaks cursor.lineBreak.2 [] fuel).map fun (breaks, cursor) =>
        (breaks.map .char, cursor)
    else .error .malformed

/-- A quoted scalar up to its closing quote, in reverse, added to what is `taken` already, and the
place behind it. -/
def quotedFrom (quote : Char) (cursor : Cursor) (taken : Wide) :
    Nat → Except Error (Wide × Cursor)
  | 0 => .error .malformed
  | fuel + 1 =>
    let c := cursor.peek
    if c == endMark then .error .malformed
    else if c == quote then
      if quote == '\'' && cursor.peekAt 1 == '\'' then
        quotedFrom quote (cursor.skip 2) (.char '\'' :: taken) fuel
      else .ok (taken, cursor.next)
    else if c == '\\' && quote == '"' then
      match escapeAt cursor.next fuel with
      | .ok (piece, cursor) => quotedFrom quote cursor (piece.reverse ++ taken) fuel
      | .error error => .error error
    else if isBlankOrTab c || isBreak c then
      let (blanks, cursor) := cursor.span isBlankOrTab
      if isBreak cursor.peek then
        let (line, cursor) := cursor.lineBreak
        match quotedBreaks cursor [] fuel with
        | .error error => .error error
        | .ok (breaks, cursor) =>
          quotedFrom quote cursor ((folded line breaks).reverse.map .char ++ taken) fuel
      else quotedFrom quote cursor (blanks.reverse.map .char ++ taken) fuel
    else quotedFrom quote cursor.next (.char c :: taken) fuel

def quotedScalar (cursor : Cursor) (fuel : Nat) : Except Error (Wide × Cursor) :=
  match quotedFrom cursor.peek cursor.next [] fuel with
  | .ok (taken, cursor) => .ok (taken.reverse, cursor)
  | .error error => .error error

/-- How the breaks at the end of a block are treated. -/
inductive Chomping where
  | clip
  | strip
  | keep
  deriving DecidableEq, Repr

def chomping? (c : Char) : Option Chomping :=
  if c == '+' then some .keep else if c == '-' then some .strip else none

/-- The indentation that a digit asks for. -/
def increment? (c : Char) : Option Nat :=
  if c.isDigit then some (c.toNat - '0'.toNat) else none

/-- The header of a block: chomping, the indentation asked for, and the place behind the line. -/
def blockHeader? (cursor : Cursor) : Option (Chomping × Option Nat × Cursor) :=
  let (chomping, increment, cursor) :=
    match chomping? cursor.peek, increment? cursor.peek with
    | some chomping, _ =>
      match increment? cursor.next.peek with
      | some increment => (chomping, some increment, cursor.skip 2)
      | none => (chomping, none, cursor.next)
    | none, some increment =>
      match chomping? cursor.next.peek with
      | some chomping => (chomping, some increment, cursor.skip 2)
      | none => (.clip, some increment, cursor.next)
    | none, none => (.clip, none, cursor)
  if increment == some 0 || !(cursor.peek == ' ' || endsLine cursor.peek) then none
  else cursor.restOfLine?.map fun cursor => (chomping, increment, cursor)

/-- The blank lines before the first line of a block: their breaks, the column of the first of them,
and the greatest column that blanks reach, also on the first line. -/
structure BlockMargin where
  breaks : List Char
  first : Option Nat
  widest : Nat
  deriving DecidableEq, Repr

def blockMargin (cursor : Cursor) (margin : BlockMargin) : Nat → BlockMargin × Cursor
  | 0 => (margin, cursor)
  | fuel + 1 =>
    if cursor.peek == ' ' then
      let cursor := cursor.next
      blockMargin cursor { margin with widest := max margin.widest cursor.column } fuel
    else if isBreak cursor.peek then
      let first := margin.first <|> some cursor.column
      let (line, cursor) := cursor.lineBreak
      blockMargin cursor { margin with breaks := margin.breaks ++ line, first } fuel
    else (margin, cursor)

/-- Whether a line is indented further than the first blank line, which is indented itself. -/
def BlockMargin.isUneven (margin : BlockMargin) : Bool :=
  match margin.first with
  | some first => 0 < first && first < margin.widest
  | none => false

/-- Past at most `count` blanks. -/
def skipBlanks (cursor : Cursor) : Nat → Cursor
  | 0 => cursor
  | count + 1 => if cursor.peek == ' ' then skipBlanks cursor.next count else cursor

def skipIndent (cursor : Cursor) (indent : Nat) : Cursor :=
  skipBlanks cursor (indent - cursor.column)

/-- The breaks between the lines of a block. -/
def blockBreaks (indent : Nat) (cursor : Cursor) (breaks : List Char) : Nat → List Char × Cursor
  | 0 => (breaks, cursor)
  | fuel + 1 =>
    let cursor := skipIndent cursor indent
    if isBreak cursor.peek then
      let (line, cursor) := cursor.lineBreak
      blockBreaks indent cursor (breaks ++ line) fuel
    else (breaks, cursor)

/-- What is read of a block: its lines in reverse, its last line break, the breaks after that, and
the place reached. -/
structure BlockReading where
  taken : List Char
  last : List Char
  after : List Char
  cursor : Cursor
  deriving DecidableEq, Repr

/-- Whether a line of the block starts here. -/
def BlockReading.atLine (reading : BlockReading) (indent : Nat) : Bool :=
  reading.cursor.column == indent && reading.cursor.peek != endMark

/-- The lines of a block. One at the top of a document also ends before a document mark. -/
def blockLines (isFolded atTop : Bool) (indent : Nat) (reading : BlockReading) :
    Nat → BlockReading
  | 0 => reading
  | fuel + 1 =>
    let leading := !isBlankOrTab reading.cursor.peek
    let (line, cursor) := reading.cursor.span (!endsLine ·)
    let taken := line.reverse ++ (reading.after.reverse ++ reading.taken)
    let (last, cursor) := cursor.lineBreak
    let (after, cursor) := blockBreaks indent cursor [] fuel
    let read : BlockReading := ⟨taken, last, after, cursor⟩
    if (atTop && cursor.column == 0 && cursor.atDocumentMark) || !read.atLine indent then read
    else
      let joint :=
        if isFolded && last == ['\n'] && leading && !isBlankOrTab cursor.peek then
          if after.isEmpty then [' '] else []
        else last
      blockLines isFolded atTop indent { read with taken := joint.reverse ++ taken } fuel

/-- A block scalar in a collection indented by `indent`. -/
def blockScalar (indent : Int) (cursor : Cursor) (fuel : Nat) :
    Except Error (List Char × Cursor) :=
  let isFolded := cursor.peek == '>'
  match blockHeader? cursor.next with
  | none => .error .malformed
  | some (chomping, increment, cursor) =>
    let least := (indent + 1).toNat
    let start : Except Error (List Char × Nat × Cursor) :=
      match increment with
      | none =>
        let (margin, cursor) := blockMargin cursor ⟨[], none, 0⟩ fuel
        if margin.isUneven then .error .malformed
        else .ok (margin.breaks, max least margin.widest, cursor)
      | some increment =>
        let width := max least 1 + increment - 1
        let (breaks, cursor) := blockBreaks width cursor [] fuel
        .ok (breaks, width, cursor)
    match start with
    | .error error => .error error
    | .ok (breaks, width, cursor) =>
      let atTop := increment.isNone && least == 0
      let begun : BlockReading := ⟨[], [], breaks, cursor⟩
      let reading :=
        if begun.atLine width then blockLines isFolded atTop width begun fuel else begun
      let text := reading.taken.reverse
      match chomping with
      | .clip => .ok (text ++ reading.last, reading.cursor)
      | .strip => .ok (text, reading.cursor)
      | .keep => .ok (text ++ reading.last ++ reading.after, reading.cursor)

end EndpointDocs.Yaml
