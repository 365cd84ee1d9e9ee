import EndpointDocs.Text.CodePoint
import EndpointDocs.Text.Printable

/-!
The quoted form in which messages show a text: on one line, between quotes, with escapes for what
has no printed form. Single quotes are used unless the text has single quotes and no double ones.
-/
namespace EndpointDocs.Text

/-- The number in hexadecimal, with zeros in front up to `width` digits. -/
def hexDigits (width n : Nat) : List Char :=
  let digits := Nat.toDigits 16 n
  List.replicate (width - digits.length) '0' ++ digits

def quoteMark (text : Wide) : Char :=
  if text.contains (.char '\'') && !text.contains (.char '"') then '"' else '\''

/-- One character of a text quoted with `mark`. -/
def quotedChar (mark c : Char) : List Char :=
  if c == '\\' || c == mark then ['\\', c]
  else if c == '\n' then ['\\', 'n']
  else if c == '\r' then ['\\', 'r']
  else if c == '\t' then ['\\', 't']
  else if isPrintable c then [c]
  else if c.toNat < 0x100 then ['\\', 'x'] ++ hexDigits 2 c.toNat
  else if c.toNat < 0x10000 then ['\\', 'u'] ++ hexDigits 4 c.toNat
  else ['\\', 'U'] ++ hexDigits 8 c.toNat

def quotedPoint (mark : Char) : CodePoint → List Char
  | .char c => quotedChar mark c
  | .half index => ['\\', 'u'] ++ hexDigits 4 (CodePoint.half index).number

def quoted (text : Wide) : String :=
  let mark := quoteMark text
  String.ofList (mark :: text.flatMap (quotedPoint mark) ++ [mark])

/-- One byte of a quoted row of bytes: only ASCII has a printed form. -/
def quotedByte (mark : Char) (byte : UInt8) : List Char :=
  if 0x7F ≤ byte.toNat then ['\\', 'x'] ++ hexDigits 2 byte.toNat
  else quotedChar mark (Char.ofNat byte.toNat)

def quotedBytes (bytes : List UInt8) : String :=
  let mark := quoteMark (bytes.map fun byte => .char (Char.ofNat byte.toNat))
  String.ofList ('b' :: mark :: bytes.flatMap (quotedByte mark) ++ [mark])

end EndpointDocs.Text
