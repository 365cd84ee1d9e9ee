/-!
A place in a YAML text: what is left to read, and the line, column and index reached.
-/
namespace EndpointDocs.Yaml

/-- A version of the language. -/
structure Version where
  major : Nat
  minor : Nat
  deriving DecidableEq, Repr

def Version.standard : Version :=
  ⟨1, 2⟩

/-- The older version, whose plain scalars and flow collections have rules of their own. -/
def Version.older : Version :=
  ⟨1, 1⟩

/-- Whether a version is one of the two that are known. -/
def Version.isKnown (version : Version) : Bool :=
  version = standard || version = older

def Version.isNewer (version : Version) : Bool :=
  1 < version.major || (version.major == 1 && 1 < version.minor)

structure Cursor where
  rest : List Char
  line : Nat
  column : Nat
  index : Nat
  deriving DecidableEq, Repr

/-- What is seen behind the last character. -/
def endMark : Char :=
  Char.ofNat 0

def isBreak (c : Char) : Bool :=
  c == '\n' || c == '\r' || c.toNat == 0x85 || c.toNat == 0x2028 || c.toNat == 0x2029

/-- A line ends here: at a break, or at the end of the text. -/
def endsLine (c : Char) : Bool :=
  isBreak c || c == endMark

/-- A word ends here: at a blank or at the end of a line. -/
def endsWord (c : Char) : Bool :=
  c == ' ' || c == '\t' || endsLine c

def isBlankOrTab (c : Char) : Bool :=
  c == ' ' || c == '\t'

/-- The brackets and the comma of flow collections. -/
def isFlowMark (c : Char) : Bool :=
  c == ',' || c == '[' || c == ']' || c == '\x7b' || c == '\x7d'

/-- The characters that a text may have. -/
def isAllowed (c : Char) : Bool :=
  let n := c.toNat
  n == 9 || n == 10 || n == 13 || (0x20 ≤ n && n ≤ 0x7E) || n == 0x85 ||
    (0xA0 ≤ n && n ≤ 0xD7FF) || (0xE000 ≤ n && n ≤ 0xFFFD) || 0x10000 ≤ n

namespace Cursor

def start (text : List Char) : Cursor :=
  ⟨text, 0, 0, 0⟩

def peek (cursor : Cursor) : Char :=
  cursor.rest.head?.getD endMark

def peekAt (cursor : Cursor) (skipped : Nat) : Char :=
  (cursor.rest[skipped]?).getD endMark

/-- Past the next character. Lines are counted by line feeds and carriage returns; the other breaks
do not start a line of the count. A byte order mark has no width. -/
def next (cursor : Cursor) : Cursor :=
  match cursor.rest with
  | [] => cursor
  | c :: rest =>
    if c == '\n' || (c == '\r' && rest.head? != some '\n') then
      ⟨rest, cursor.line + 1, 0, cursor.index + 1⟩
    else if c.toNat == 0xFEFF then ⟨rest, cursor.line, cursor.column, cursor.index + 1⟩
    else ⟨rest, cursor.line, cursor.column + 1, cursor.index + 1⟩

def skip (cursor : Cursor) : Nat → Cursor
  | 0 => cursor
  | count + 1 => cursor.next.skip count

/-- Past the characters that satisfy `p`, and those characters. -/
def span (cursor : Cursor) (p : Char → Bool) : List Char × Cursor :=
  let taken := cursor.rest.takeWhile p
  (taken, cursor.skip taken.length)

def skipWhile (cursor : Cursor) (p : Char → Bool) : Cursor :=
  (cursor.span p).2

/-- Past a line break, and what it stands for: a line feed, or the separator itself. -/
def lineBreak (cursor : Cursor) : List Char × Cursor :=
  let c := cursor.peek
  if c == '\r' && cursor.peekAt 1 == '\n' then (['\n'], cursor.skip 2)
  else if c == '\r' || c == '\n' || c.toNat == 0x85 then (['\n'], cursor.next)
  else if isBreak c then ([c], cursor.next)
  else ([], cursor)

/-- Past blanks, a comment, and the end of the line; nothing if there is more on the line. -/
def restOfLine? (cursor : Cursor) : Option Cursor :=
  let cursor := cursor.skipWhile (· == ' ')
  let cursor := if cursor.peek == '#' then cursor.skipWhile (!endsLine ·) else cursor
  if endsLine cursor.peek then some cursor.lineBreak.2 else none

/-- Whether a word that consists of `mark` thrice starts here. -/
def atMark (cursor : Cursor) (mark : Char) : Bool :=
  [mark, mark, mark].isPrefixOf cursor.rest && endsWord (cursor.peekAt 3)

/-- Whether a mark between documents starts here. -/
def atDocumentMark (cursor : Cursor) : Bool :=
  cursor.atMark '-' || cursor.atMark '.'

end Cursor

end EndpointDocs.Yaml
