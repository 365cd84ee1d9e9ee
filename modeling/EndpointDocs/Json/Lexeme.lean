/-!
The lexemes by which JSON text is coloured. Any text is accepted: what is not JSON becomes lexemes
of its own kind, and the lexemes put together are the text. A string is held back, with the blanks
and comments after it, until it is known whether a colon follows and makes it a name.
-/
namespace EndpointDocs.Json

inductive Kind where
  | plain
  | string
  | name
  | space
  | constant
  | integer
  | float
  | punctuation
  | lineComment
  | blockComment
  | error
  deriving DecidableEq, Repr

structure Lexeme where
  kind : Kind
  text : List Char
  deriving DecidableEq, Repr

/-- Where the reading of a string stands: outside an escape, after a backslash, or with some
hexadecimal digits still to come. -/
inductive Escape where
  | outside
  | opened
  | digits (left : Nat)
  deriving DecidableEq, Repr

inductive Mode where
  | idle
  | string (escape : Escape)
  | space
  | constant
  | number (float : Bool)
  | punctuation
  | lineComment
  | blockComment (armed : Bool)
  | slash
  deriving DecidableEq, Repr

/-- The reading of a text: the mode, the current lexeme's characters, the lexemes held back and the
finished ones, all with the newest first. -/
structure Reading where
  mode : Mode
  current : List Char
  held : List Lexeme
  finished : List Lexeme
  deriving DecidableEq, Repr

namespace Reading

def start : Reading :=
  ⟨.idle, [], [], []⟩

def extend (r : Reading) (mode : Mode) (c : Char) : Reading :=
  { r with mode, current := c :: r.current }

/-- Finishes the lexemes held back. -/
def flush (r : Reading) : Reading :=
  { r with held := [], finished := r.held ++ r.finished }

/-- Finishes the lexemes held back, whose strings turn out to be names. -/
def flushNames (r : Reading) : Reading :=
  let renamed := r.held.map fun lexeme =>
    if lexeme.kind = .string then { lexeme with kind := .name } else lexeme
  { r with held := [], finished := renamed ++ r.finished }

def finish (r : Reading) (kind : Kind) : Reading :=
  { r with mode := .idle, current := [], finished := ⟨kind, r.current.reverse⟩ :: r.finished }

def hold (r : Reading) (kind : Kind) : Reading :=
  { r with mode := .idle, current := [], held := ⟨kind, r.current.reverse⟩ :: r.held }

/-- Holds the current lexeme back if others are held back before it, else finishes it. -/
def queue (r : Reading) (kind : Kind) : Reading :=
  if r.held.isEmpty then r.finish kind else r.hold kind

end Reading

def isSpace (c : Char) : Bool :=
  c == ' ' || c == '\n' || c == '\r' || c == '\t'

def isConstantLetter (c : Char) : Bool :=
  "truefalsn".toList.contains c

def isIntegerChar (c : Char) : Bool :=
  c.isDigit || c == '-'

/-- The characters that make a number a fraction. -/
def isFloatChar (c : Char) : Bool :=
  c == '.' || c == 'e' || c == 'E' || c == '+'

def isBracket (c : Char) : Bool :=
  c == '\x7b' || c == '\x7d' || c == '[' || c == ']' || c == ','

def isHexDigit (c : Char) : Bool :=
  c.isDigit || ('a' ≤ c && c ≤ 'f') || ('A' ≤ c && c ≤ 'F')

namespace Reading

/-- Begins a lexeme with `c`. -/
def begin (r : Reading) (c : Char) : Reading :=
  if c == '"' then r.extend (.string .outside) c
  else if isSpace c then r.extend .space c
  else if c == 'f' || c == 'n' || c == 't' then r.flush.extend .constant c
  else if isIntegerChar c then r.flush.extend (.number false) c
  else if c == ':' then r.flushNames.extend .punctuation c
  else if isBracket c then r.flush.extend .punctuation c
  else if c == '/' then r.extend .slash c
  else (r.flush.extend .idle c).finish .error

def step (r : Reading) (c : Char) : Reading :=
  match r.mode with
  | .idle => r.begin c
  | .string .outside =>
    if c == '\\' then r.extend (.string .opened) c
    else if c == '"' then (r.extend .idle c).hold .string
    else r.extend (.string .outside) c
  | .string .opened =>
    if c == 'u' then r.extend (.string (.digits 4)) c else r.extend (.string .outside) c
  | .string (.digits left) =>
    if isHexDigit c && 1 < left then r.extend (.string (.digits (left - 1))) c
    else r.extend (.string .outside) c
  | .space => if isSpace c then r.extend .space c else (r.queue .space).begin c
  | .constant => if isConstantLetter c then r.extend .constant c else (r.finish .constant).begin c
  | .number float =>
    if isIntegerChar c then r.extend (.number float) c
    else if isFloatChar c then r.extend (.number true) c
    else (r.finish (if float then .float else .integer)).begin c
  | .punctuation =>
    if isBracket c then r.extend .punctuation c else (r.finish .punctuation).begin c
  | .lineComment => if c == '\n' then (r.queue .lineComment).begin c else r.extend .lineComment c
  | .blockComment armed =>
    if c == '*' then r.extend (.blockComment true) c
    else if armed && c == '/' then (r.extend .idle c).queue .blockComment
    else r.extend (.blockComment false) c
  | .slash =>
    if c == '/' then r.extend .lineComment c
    else if c == '*' then r.extend (.blockComment false) c
    else (r.flush.finish .error).begin c

/-- What the current lexeme is when the text ends inside it. -/
def lastKind : Mode → Kind
  | .idle => .plain
  | .string _ => .error
  | .space => .space
  | .constant => .constant
  | .number float => if float then .float else .integer
  | .punctuation => .punctuation
  | .lineComment => .lineComment
  | .blockComment _ => .error
  | .slash => .error

/-- The lexemes in order, when the text ends. -/
def close (r : Reading) : List Lexeme :=
  let flushed := r.flush
  let last := if r.current.isEmpty then flushed else flushed.finish (lastKind r.mode)
  last.finished.reverse

end Reading

def lexemes (text : List Char) : List Lexeme :=
  (text.foldl Reading.step Reading.start).close

end EndpointDocs.Json
