import EndpointDocs.Json.Lexeme
import EndpointDocs.Json.Value
import EndpointDocs.Number.Numeral
import EndpointDocs.OrderedMap

/-!
Reading JSON documents. The characters are cut into tokens, and the tokens drive a machine with a
stack of the containers that are open. Only well-formed documents are read: numbers have no leading
zeros, strings no control characters and no half of a surrogate pair, and no comma is left over. In
an object a name that comes again keeps its place and takes the later value.
-/
namespace EndpointDocs.Json

inductive Token where
  | openArray
  | closeArray
  | openObject
  | closeObject
  | colon
  | comma
  | scalar (value : Value)

def mark? (c : Char) : Option Token :=
  if c == '[' then some .openArray
  else if c == ']' then some .closeArray
  else if c == '\x7b' then some .openObject
  else if c == '\x7d' then some .closeObject
  else if c == ':' then some .colon
  else if c == ',' then some .comma
  else none

/-- The digits behind a point, if there is one, and what follows them. -/
def fraction? : List Char → Option (List Char × List Char)
  | '.' :: rest =>
    let digits := rest.takeWhile Char.isDigit
    if digits.isEmpty then none else some (digits, rest.dropWhile Char.isDigit)
  | rest => some ([], rest)

/-- The power of ten at the end of a number. -/
def exponent? : List Char → Option Int
  | [] => some 0
  | c :: rest =>
    let digits := if rest.head? = some '-' || rest.head? = some '+' then rest.drop 1 else rest
    let size : Int := Nat.ofDigitChars 10 digits 0
    if (c == 'e' || c == 'E') && !digits.isEmpty && digits.all Char.isDigit then
      some (if rest.head? = some '-' then -size else size)
    else none

/-- The number `mantissa / 10 ^ places`, times a power of ten. -/
def scaled (mantissa : Int) (places : Nat) (exponent : Int) : Value :=
  .number (mantissa * Nat.pow 10 (exponent - places).toNat) (places - exponent).toNat

def number? (word : List Char) : Option Value :=
  let unsigned := if word.head? = some '-' then word.drop 1 else word
  let whole := unsigned.takeWhile Char.isDigit
  if whole.isEmpty || (whole.head? = some '0' && whole.length ≠ 1) then none
  else
    (fraction? (unsigned.dropWhile Char.isDigit)).bind fun (part, rest) =>
      (exponent? rest).map fun exponent =>
        let size : Int := Nat.ofDigitChars 10 (whole ++ part) 0
        scaled (if word.head? = some '-' then -size else size) part.length exponent

/-- The value that a word outside of strings writes. -/
def word? (word : List Char) : Option Value :=
  (number? word).or <|
    if word = "null".toList then some .null
    else if word = "true".toList then some (.bool true)
    else if word = "false".toList then some (.bool false)
    else none

def isWordChar (c : Char) : Bool :=
  c.isAlphanum || c == '+' || c == '-' || c == '.'

def unitsOf (c : Char) : List Nat :=
  let n := c.toNat
  if n < 0x10000 then [n] else [0xD800 + (n - 0x10000) / 1024, 0xDC00 + (n - 0x10000) % 1024]

def textOfUnits? : List Nat → Option (List Char)
  | [] => some []
  | unit :: rest =>
    if unit < 0xD800 || 0xE000 ≤ unit then (textOfUnits? rest).map (Char.ofNat unit :: ·)
    else
      match rest with
      | low :: rest =>
        if unit < 0xDC00 && 0xDC00 ≤ low && low < 0xE000 then
          (textOfUnits? rest).map
            (Char.ofNat (0x10000 + (unit - 0xD800) * 1024 + (low - 0xDC00)) :: ·)
        else none
      | [] => none

/-- The unit that a character behind a backslash stands for. -/
def escaped? (c : Char) : Option Nat :=
  if c == '"' || c == '\\' || c == '/' then some c.toNat
  else if c == 'b' then some 8
  else if c == 'f' then some 12
  else if c == 'n' then some 10
  else if c == 'r' then some 13
  else if c == 't' then some 9
  else none

/-- Where the cutting into tokens stands: between tokens, inside a word with its characters, or
inside a string with its units, perhaps behind a backslash or with digits of a unit still to come.
Characters and units are kept with the newest first. -/
inductive Scan where
  | between
  | word (chars : List Char)
  | string (units : List Nat)
  | backslash (units : List Nat)
  | digits (units : List Nat) (value left : Nat)

/-- The next character, when no token has been begun. -/
def Scan.start (c : Char) : Option (Scan × List Token) :=
  if isSpace c then some (.between, [])
  else if c == '"' then some (.string [], [])
  else if isWordChar c then some (.word [c], [])
  else (mark? c).map fun token => (.between, [token])

/-- The next character, and the tokens that it completes. -/
def Scan.step : Scan → Char → Option (Scan × List Token)
  | .between, c => start c
  | .word chars, c =>
    if isWordChar c then some (.word (c :: chars), [])
    else
      (word? chars.reverse).bind fun value =>
        (start c).map fun (next, tokens) => (next, .scalar value :: tokens)
  | .string units, c =>
    if c == '"' then
      (textOfUnits? units.reverse).map fun text =>
        (.between, [.scalar (.string (String.ofList text))])
    else if c == '\\' then some (.backslash units, [])
    else if c.toNat < 32 then none
    else some (.string ((unitsOf c).reverse ++ units), [])
  | .backslash units, c =>
    if c == 'u' then some (.digits units 0 4, [])
    else (escaped? c).map fun unit => (.string (unit :: units), [])
  | .digits units value left, c =>
    (Numeral.digitValue? c).map fun digit =>
      let value := value * 16 + digit
      if 1 < left then (.digits units value (left - 1), []) else (.string (value :: units), [])

/-- The tokens of the characters to come. -/
def tokens? : Scan → List Char → Option (List Token)
  | .between, [] => some []
  | .word chars, [] => (word? chars.reverse).map fun value => [.scalar value]
  | _, [] => none
  | scan, c :: rest =>
    (scan.step c).bind fun (next, tokens) => (tokens? next rest).map (tokens ++ ·)

/-- A container that is open while a value inside it is read: the items before the value, or the
members before it and its name. -/
inductive Frame where
  | items (items : List Value)
  | member (members : List (String × Value)) (name : String)

/-- What may come next: a value; the first item of an array, or its end; the name of a member behind
the given ones, or the end of the object if it would be the first one; a colon behind a name; or
what follows a value that is complete. -/
inductive Expected where
  | value
  | item
  | name (members : List (String × Value)) (first : Bool)
  | colon (members : List (String × Value)) (name : String)
  | complete (value : Value)

/-- What may come next, and the containers that are open, innermost first. -/
structure Reader where
  expected : Expected
  frames : List Frame

/-- The first token of a value. -/
def Reader.start (frames : List Frame) : Token → Option Reader
  | .scalar value => some ⟨.complete value, frames⟩
  | .openArray => some ⟨.item, frames⟩
  | .openObject => some ⟨.name [] true, frames⟩
  | _ => none

def Reader.step : Reader → Token → Option Reader
  | ⟨.value, frames⟩, token => start frames token
  | ⟨.item, frames⟩, .closeArray => some ⟨.complete (.array []), frames⟩
  | ⟨.item, frames⟩, token => start (.items [] :: frames) token
  | ⟨.name members _, frames⟩, .scalar (.string name) => some ⟨.colon members name, frames⟩
  | ⟨.name _ true, frames⟩, .closeObject => some ⟨.complete (.object []), frames⟩
  | ⟨.colon members name, frames⟩, .colon => some ⟨.value, .member members name :: frames⟩
  | ⟨.complete value, .items items :: frames⟩, .comma =>
    some ⟨.value, .items (items ++ [value]) :: frames⟩
  | ⟨.complete value, .items items :: frames⟩, .closeArray =>
    some ⟨.complete (.array (items ++ [value])), frames⟩
  | ⟨.complete value, .member members name :: frames⟩, .comma =>
    some ⟨.name (OrderedMap.putEntry name value members) false, frames⟩
  | ⟨.complete value, .member members name :: frames⟩, .closeObject =>
    some ⟨.complete (.object (OrderedMap.putEntry name value members)), frames⟩
  | _, _ => none

/-- The value when the tokens end: it must be complete, and no container open. -/
def Reader.result? : Reader → Option Value
  | ⟨.complete value, []⟩ => some value
  | _ => none

def read (document : String) : Option Value :=
  (tokens? .between document.toList).bind fun tokens =>
    (tokens.foldlM Reader.step ⟨.value, []⟩).bind Reader.result?

end EndpointDocs.Json
