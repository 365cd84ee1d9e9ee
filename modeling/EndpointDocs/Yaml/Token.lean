import EndpointDocs.Text.Utf8
import EndpointDocs.Yaml.Scalar

/-!
The tokens of a YAML text, read as they are asked for. A key is only known as such when its colon is
reached, so the places where a key may have begun are kept, one per level of flow collections, and
the key token is put in afterwards; a token that may begin a key is given out only when that is
settled. Indentation opens and closes block collections.
-/
namespace EndpointDocs.Yaml

/-- What a directive says: the version of the language, or what a handle of tags stands for. -/
inductive Directive where
  | version (version : Version)
  | handle (name expansion : String)
  | other
  deriving DecidableEq, Repr

inductive Token where
  | directive (directive : Directive)
  | documentStart
  | documentEnd
  | textEnd
  | blockSequenceStart
  | blockMappingStart
  | blockEnd
  | flowSequenceStart
  | flowSequenceEnd
  | flowMappingStart
  | flowMappingEnd
  | blockEntry
  | flowEntry
  | key
  | value
  | alias (name : String)
  | anchor (name : String)
  /-- A tag with its handle; one that is verbatim, or only exclamation marks, has none. -/
  | tag (handle : Option String) (name : String)
  | scalar (text : Wide) (plain : Bool)
  deriving DecidableEq, Repr

/-- A place where a key may have begun: its flow level, the number of its first token, and where it
stands. One that must be a key is an error if its colon does not come. -/
structure KeyPlace where
  level : Nat
  number : Nat
  required : Bool
  index : Nat
  line : Nat
  column : Nat
  deriving DecidableEq, Repr

structure Scan where
  cursor : Cursor
  /-- Steps enough for every reader: more than the text has characters. -/
  fuel : Nat
  /-- The version that a directive gave. -/
  version : Option Version
  /-- The tokens that were read and not given out yet. -/
  queue : List Token
  /-- The number of tokens given out. -/
  taken : Nat
  ended : Bool
  indent : Int
  /-- The indentations of the enclosing block collections, innermost first. -/
  indents : List Int
  /-- The open brackets of flow collections, innermost first. -/
  flow : List Char
  mayKey : Bool
  keys : List KeyPlace
  deriving DecidableEq, Repr

namespace Scan

def start (text : List Char) : Scan :=
  { cursor := Cursor.start text, fuel := text.length + 2, version := none, queue := [], taken := 0
    ended := false, indent := -1, indents := [], flow := [], mayKey := true, keys := [] }

def language (s : Scan) : Version :=
  s.version.getD Version.standard

/-- Whether the text is read in the older version of the language. -/
def isOlder (s : Scan) : Bool :=
  s.language = Version.older

/-- Whether a flow collection is open. -/
def inFlow (s : Scan) : Bool :=
  !s.flow.isEmpty

def level (s : Scan) : Nat :=
  s.flow.length

def emit (s : Scan) (token : Token) : Scan :=
  { s with queue := s.queue ++ [token] }

def number (s : Scan) : Nat :=
  s.taken + s.queue.length

/-- Puts a token in before the one with a number. -/
def insert (s : Scan) (number : Nat) (token : Token) : Scan :=
  let place := number - s.taken
  { s with queue := s.queue.take place ++ token :: s.queue.drop place }

def advance (s : Scan) (count : Nat) : Scan :=
  { s with cursor := s.cursor.skip count }

/-- Past blanks, comments and line breaks. In a flow collection tabs count as blanks; outside, a
line break lets a key begin. -/
def skipBlank (s : Scan) : Nat → Scan
  | 0 => s
  | fuel + 1 =>
    let cursor := s.cursor.skipWhile fun c => c == ' ' || (s.inFlow && c == '\t')
    let cursor := if cursor.peek == '#' then cursor.skipWhile (!endsLine ·) else cursor
    if isBreak cursor.peek then
      skipBlank { s with cursor := cursor.lineBreak.2, mayKey := s.mayKey || !s.inFlow } fuel
    else { s with cursor }

/-- To the next token; a byte order mark at the very beginning is passed over. -/
def toNext (s : Scan) : Scan :=
  let s :=
    if s.cursor.index == 0 && s.cursor.peek.toNat == 0xFEFF then { s with cursor := s.cursor.next }
    else s
  s.skipBlank s.fuel

/-- Drops the places that are too far back to begin a key: on an earlier line, or more than 1024
characters away. -/
def dropStale (s : Scan) : Except Error Scan :=
  let stale (place : KeyPlace) : Bool :=
    place.line != s.cursor.line || 1024 < s.cursor.index - place.index
  if s.keys.any fun place => stale place && place.required then .error .malformed
  else .ok { s with keys := s.keys.filter (!stale ·) }

/-- Drops the place of the current flow level. -/
def dropKey (s : Scan) : Except Error Scan :=
  if s.keys.any fun place => place.level == s.level && place.required then .error .malformed
  else .ok { s with keys := s.keys.filter (·.level != s.level) }

/-- Notes that a key may begin here. -/
def noteKey (s : Scan) : Except Error Scan :=
  if s.mayKey then
    -- at the indentation of a block mapping nothing but a key can stand
    let required := !s.inFlow && s.indent == s.cursor.column
    let place : KeyPlace :=
      ⟨s.level, s.number, required, s.cursor.index, s.cursor.line, s.cursor.column⟩
    s.dropKey.map fun s => { s with keys := place :: s.keys }
  else .ok s

/-- Closes the block collections that are indented further than `column`. -/
def unwindTo (column : Int) (s : Scan) : Scan :=
  s.indents.foldl (fun s outer =>
    if column < s.indent then
      { s.emit .blockEnd with indent := outer, indents := s.indents.drop 1 }
    else s) s

/-- Closes block collections unless a flow collection is open. -/
def unwind (column : Int) (s : Scan) : Scan :=
  if s.inFlow then s else s.unwindTo column

/-- Opens a block collection at `column` if none is open there, with its token before the one with
`number`. -/
def openBlock (s : Scan) (column number : Nat) (token : Token) : Scan :=
  if s.indent < column then
    { s.insert number token with indent := column, indents := s.indent :: s.indents }
  else s

/-- The end of the text. -/
def finish (s : Scan) : Except Error Scan :=
  (s.unwind (-1)).dropKey.map fun s =>
    { s.emit .textEnd with mayKey := false, keys := [], ended := true }

def documentMark (s : Scan) (token : Token) : Except Error Scan :=
  (s.unwind (-1)).dropKey.map fun s => { (s.advance 3).emit token with mayKey := false }

/-- A number of a version, and the place behind it. -/
def versionNumber (cursor : Cursor) : Except Error (Nat × Cursor) :=
  let (digits, cursor) := cursor.span Char.isDigit
  if digits.isEmpty then .error .malformed
  else if Numeral.maxDigits < digits.length then .error (.longInteger digits.length)
  else .ok (Numeral.digitsValue 10 digits, cursor)

/-- Whether a part of a directive or a tag ends here. -/
def endsPart (c : Char) : Bool :=
  c == ' ' || endsLine c

/-- The version that a directive gives, and the place behind it. -/
def versionAt (cursor : Cursor) : Except Error (Version × Cursor) :=
  match versionNumber (cursor.skipWhile (· == ' ')) with
  | .error error => .error error
  | .ok (major, cursor) =>
    if cursor.peek != '.' then .error .malformed
    else
      match versionNumber cursor.next with
      | .error error => .error error
      | .ok (minor, cursor) =>
        if endsPart cursor.peek then .ok (⟨major, minor⟩, cursor) else .error .malformed

/-- Whether a character may stand in a handle of tags. -/
def isHandleChar (c : Char) : Bool :=
  c.isAlphanum || c == '-' || c == '_'

/-- A handle of tags, between exclamation marks or one of them before a blank, and the place behind
it. -/
def handleAt? (cursor : Cursor) : Option (String × Cursor) :=
  if cursor.peek != '!' then none
  else if cursor.peekAt 1 == ' ' then some ("!", cursor.next)
  else
    let (name, cursor) := cursor.next.span isHandleChar
    if cursor.peek == '!' then some ("!" ++ String.ofList name ++ "!", cursor.next) else none

def isTagChar (language : Version) (c : Char) : Bool :=
  c.isAlphanum || "-;/?:@&=+$,_.!~*'()[]".toList.contains c || (c == '#' && language.isNewer)

/-- Past the escapes with two hexadecimal digits that stand here, and the bytes they stand for. -/
def tagEscapes? (cursor : Cursor) (bytes : List UInt8) : Nat → Option (List UInt8 × Cursor)
  | 0 => none
  | fuel + 1 =>
    if cursor.peek == '%' then
      match escapeCode? cursor.next 2 with
      | some (code, cursor) => tagEscapes? cursor (bytes ++ [code.toUInt8]) fuel
      | none => none
    else some (bytes, cursor)

/-- The place behind the name of a tag. The bytes of neighbouring escapes must form characters. -/
def behindTagName? (language : Version) (cursor : Cursor) : Nat → Option Cursor
  | 0 => none
  | fuel + 1 =>
    if cursor.peek == '%' then
      match tagEscapes? cursor [] (fuel + 1) with
      | some (bytes, behind) =>
        match Text.Utf8.decode bytes with
        | .ok _ => behindTagName? language behind fuel
        | .error _ => none
      | none => none
    else if isTagChar language cursor.peek then behindTagName? language cursor.next fuel
    else some cursor

/-- The name of a tag as it is written, and the place behind it. -/
def tagNameAt? (s : Scan) (cursor : Cursor) : Option (List Char × Cursor) :=
  match behindTagName? s.language cursor s.fuel with
  | some behind =>
    if behind.index = cursor.index then none
    else some (cursor.rest.take (behind.index - cursor.index), behind)
  | none => none

/-- The name of a tag with each escape as a character of its own. -/
def unescaped : List Char → List Char
  | '%' :: high :: low :: rest =>
    Char.ofNat (Numeral.digitsValue 16 [high, low]) :: unescaped rest
  | c :: rest => c :: unescaped rest
  | [] => []

/-- What a handle of tags stands for, as a directive says, and the place behind it. -/
def handleDirectiveAt? (s : Scan) (cursor : Cursor) : Option (Directive × Cursor) :=
  match handleAt? (cursor.skipWhile (· == ' ')) with
  | none => none
  | some (name, cursor) =>
    if cursor.peek != ' ' then none
    else
      match s.tagNameAt? (cursor.skipWhile (· == ' ')) with
      | none => none
      | some (expansion, cursor) =>
        if endsPart cursor.peek then some (.handle name (String.ofList expansion), cursor) else none

def isDirectiveChar (c : Char) : Bool :=
  c.isAlphanum || c == '-' || c == '_' || c == ':' || c == '.'

/-- A directive with its line. A version holds from here on. -/
def directive (s : Scan) : Except Error Scan :=
  match (s.unwind (-1)).dropKey with
  | .error error => .error error
  | .ok s =>
    let (name, cursor) := s.cursor.next.span isDirectiveChar
    let read : Except Error (Directive × Cursor) :=
      if name.isEmpty || !endsPart cursor.peek then .error .malformed
      else if name = "YAML".toList then
        (versionAt cursor).map fun (version, cursor) => (.version version, cursor)
      else if name = "TAG".toList then
        match s.handleDirectiveAt? cursor with
        | some read => .ok read
        | none => .error .malformed
      else .ok (.other, cursor.skipWhile (!endsLine ·))
    match read with
    | .error error => .error error
    | .ok (directive, cursor) =>
      match cursor.restOfLine? with
      | none => .error .malformed
      | some cursor =>
        let version :=
          match directive with
          | .version version => some version
          | _ => s.version
        .ok { { s with cursor, version }.emit (.directive directive) with mayKey := false }

def openFlow (s : Scan) (bracket : Char) (token : Token) : Except Error Scan :=
  s.noteKey.map fun s =>
    { (s.emit token).advance 1 with flow := bracket :: s.flow, mayKey := true }

def closeFlow (s : Scan) (token : Token) : Except Error Scan :=
  s.dropKey.map fun s =>
    { (s.emit token).advance 1 with flow := s.flow.drop 1, mayKey := false }

def flowEntry (s : Scan) : Except Error Scan :=
  s.dropKey.map fun s => { (s.emit .flowEntry).advance 1 with mayKey := true }

/-- A hyphen in front of an element of a block sequence. -/
def blockEntry (s : Scan) : Except Error Scan :=
  let add (s : Scan) : Except Error Scan :=
    s.dropKey.map fun s => { (s.emit .blockEntry).advance 1 with mayKey := true }
  if s.inFlow then add s
  else if s.mayKey then add (s.openBlock s.cursor.column s.number .blockSequenceStart)
  else .error .malformed

/-- A question mark in front of a key, or a colon in front of a value whose key is not simple. -/
def explicit (s : Scan) (token : Token) : Except Error Scan :=
  let add (s : Scan) : Except Error Scan :=
    s.dropKey.map fun s => { (s.emit token).advance 1 with mayKey := !s.inFlow }
  if s.inFlow then add s
  else if s.mayKey then add (s.openBlock s.cursor.column s.number .blockMappingStart)
  else .error .malformed

def value (s : Scan) : Except Error Scan :=
  match s.keys.find? (·.level == s.level) with
  | some place =>
    let s := { s with keys := s.keys.filter (·.level != s.level) }
    -- what was read since then is the key
    let s := s.insert place.number .key
    let s := if s.inFlow then s else s.openBlock place.column place.number .blockMappingStart
    .ok { (s.emit .value).advance 1 with mayKey := false }
  | none => s.explicit .value

def isAnchorChar (c : Char) : Bool :=
  let n := c.toNat
  !isFlowMark c &&
    ((0x21 ≤ n && n ≤ 0x7E) || (0xA0 ≤ n && n ≤ 0xD7FF) ||
      (0xE000 ≤ n && n ≤ 0xFFFD && n != 0xFEFF) || 0x10000 ≤ n)

def anchor (s : Scan) (token : String → Token) : Except Error Scan :=
  match s.noteKey with
  | .error error => .error error
  | .ok s =>
    let (name, cursor) := s.cursor.next.span isAnchorChar
    if name.isEmpty || !(endsWord cursor.peek || isFlowMark cursor.peek) then .error .malformed
    else .ok { { s with cursor }.emit (token (String.ofList name)) with mayKey := false }

/-- The tag that starts behind an exclamation mark, which may have another in front, as its handle
and name, with the place behind it: verbatim between angle brackets; nothing but exclamation marks;
or a name, which has a handle of its own if it has an exclamation mark. -/
def tagAt? (s : Scan) (short : String) (cursor : Cursor) :
    Option (Option String × String × Cursor) :=
  let next := cursor.peekAt 1
  if next == '<' then
    match s.tagNameAt? (cursor.skip 2) with
    | some (name, cursor) =>
      if cursor.peek == '>' then some (none, String.ofList (unescaped name), cursor.next) else none
    | none => none
  else if endsWord next then some (none, short, cursor.next)
  else
    let word := cursor.next.rest.takeWhile (!endsPart ·)
    let handle := if word.contains '!' then handleAt? cursor else some (short, cursor.next)
    match handle with
    | none => none
    | some (handle, cursor) =>
      (s.tagNameAt? cursor).map fun (name, cursor) =>
        (some handle, String.ofList (unescaped name), cursor)

def tag (s : Scan) : Except Error Scan :=
  match s.noteKey with
  | .error error => .error error
  | .ok s =>
    let read :=
      if s.cursor.peekAt 1 == '!' then s.tagAt? "!!" s.cursor.next else s.tagAt? "!" s.cursor
    match read with
    | none => .error .malformed
    | some (handle, name, cursor) =>
      if endsPart cursor.peek then
        .ok { { s with cursor }.emit (.tag handle name) with mayKey := false }
      else .error .malformed

def block (s : Scan) : Except Error Scan :=
  match s.dropKey with
  | .error error => .error error
  | .ok s =>
    (blockScalar s.indent s.cursor s.fuel).map fun (text, cursor) =>
      { { s with cursor }.emit (.scalar (text.map .char) false) with mayKey := true }

def quoted (s : Scan) : Except Error Scan :=
  match s.noteKey with
  | .error error => .error error
  | .ok s =>
    (quotedScalar s.cursor s.fuel).map fun (text, cursor) =>
      { { s with cursor }.emit (.scalar text false) with mayKey := false }

def plain (s : Scan) : Except Error Scan :=
  s.noteKey.map fun s =>
    let (text, cursor, mayKey) := plainScalar ⟨s.inFlow, s.isOlder⟩ s.indent s.cursor s.fuel
    { { s with cursor }.emit (.scalar (text.map .char) true) with mayKey }

/-- Whether a colon here introduces a value. In a flow sequence, and right after another colon that
was not given out yet, only one that ends a word does. In the older version of the language every
colon in a flow collection does. -/
def atValue (s : Scan) : Bool :=
  let lone := endsWord (s.cursor.peekAt 1)
  match s.flow with
  | [] => lone
  | bracket :: _ =>
    if s.isOlder then true
    else if bracket == '[' then lone
    else lone || s.queue.getLast? != some .value

/-- The characters that no plain scalar starts with, unless a rule of its own lets it. -/
def isIndicator (c : Char) : Bool :=
  endsWord c || "-?:,[]\x7b\x7d#&*!|>'\"%@`".toList.contains c

def atPlain (s : Scan) : Bool :=
  let c := s.cursor.peek
  let next := s.cursor.peekAt 1
  if !isIndicator c then true
  else if c == ':' && s.inFlow && !s.isOlder then !isBlankOrTab next
  else !endsWord next && (c == '-' || (!s.inFlow && (c == '?' || c == ':')))

def token (s : Scan) : Except Error Scan :=
  let c := s.cursor.peek
  let wordEnds := endsWord (s.cursor.peekAt 1)
  let atStart := s.cursor.column == 0
  if s.cursor.rest.isEmpty then s.finish
  else if c == '%' && atStart then s.directive
  else if atStart && s.cursor.atMark '-' then s.documentMark .documentStart
  else if atStart && s.cursor.atMark '.' then s.documentMark .documentEnd
  else if c == '[' then s.openFlow '[' .flowSequenceStart
  else if c == '\x7b' then s.openFlow '\x7b' .flowMappingStart
  else if c == ']' then s.closeFlow .flowSequenceEnd
  else if c == '\x7d' then s.closeFlow .flowMappingEnd
  else if c == ',' then s.flowEntry
  else if c == '-' && wordEnds then s.blockEntry
  else if c == '?' && (s.inFlow || wordEnds) then s.explicit .key
  else if c == ':' && s.atValue then s.value
  else if c == '*' then s.anchor .alias
  else if c == '&' then s.anchor .anchor
  else if c == '!' then s.tag
  else if (c == '|' || c == '>') && !s.inFlow then s.block
  else if c == '\'' || c == '"' then s.quoted
  else if s.atPlain then s.plain
  else .error .malformed

/-- Reads at least one token more. -/
def more (s : Scan) : Except Error Scan :=
  match s.toNext.dropStale with
  | .error error => .error error
  | .ok s => (s.unwind s.cursor.column).token

/-- Whether the first token of the queue may still turn out to begin a key. -/
def isOpen (s : Scan) : Bool :=
  s.keys.any (·.number == s.taken) && s.keys.all fun place => s.taken ≤ place.number

/-- Reads on until the first token of the queue is settled. -/
def settle (s : Scan) : Nat → Except Error Scan
  | 0 => .error .malformed
  | fuel + 1 =>
    if s.ended then .ok s
    else if s.queue.isEmpty then
      match s.more with
      | .ok s => s.settle fuel
      | .error error => .error error
    else
      match s.dropStale with
      | .error error => .error error
      | .ok s =>
        -- a key may turn out to begin at the first token, and would go before it
        if s.isOpen then
          match s.more with
          | .ok s => s.settle fuel
          | .error error => .error error
        else .ok s

/-- The next token, which stays in the queue. -/
def peek (s : Scan) : Except Error (Token × Scan) :=
  (s.settle s.fuel).map fun s => (s.queue.head?.getD .textEnd, s)

/-- Gives the next token out. -/
def take (s : Scan) : Scan :=
  { s with queue := s.queue.drop 1, taken := s.taken + 1 }

end Scan

end EndpointDocs.Yaml
