import EndpointDocs.Number.Binary64
import EndpointDocs.Text.Blank
import EndpointDocs.Text.Word

/-!
Numerals: how integers, decimals and complex numbers are written. Digits of every script count, and
blanks may stand around a numeral.
-/
namespace EndpointDocs.Numeral

def digitValue? (c : Char) : Option Nat :=
  if c.isDigit then some (c.toNat - '0'.toNat)
  else if 'a' ≤ c && c ≤ 'f' then some (c.toNat - 'a'.toNat + 10)
  else if 'A' ≤ c && c ≤ 'F' then some (c.toNat - 'A'.toNat + 10)
  else none

/-- The number that digits spell in a base. -/
def digitsValue (base : Nat) (digits : List Char) : Nat :=
  digits.foldl (fun value c => value * base + (digitValue? c).getD 0) 0

/-- Whether there is a minus sign in front, and what follows the sign. -/
def signOf (text : List Char) : Bool × List Char :=
  match text with
  | '-' :: rest => (true, rest)
  | '+' :: rest => (false, rest)
  | rest => (false, rest)

def signed (negative : Bool) (n : Nat) : Int :=
  if negative then -(n : Int) else n

/-- A character as it is read in a numeral: above ASCII, a digit of any script is an ASCII digit,
and any blank is the same blank. -/
def plainChar (c : Char) : Char :=
  if c.toNat < 127 then c
  else if Text.isBlank c then ' '
  else
    match Text.digitRanges.find? fun (low, high) => low ≤ c.toNat && c.toNat ≤ high with
    | some (low, _) => Char.ofNat ('0'.toNat + (c.toNat - low) % 10)
    | none => c

/-- The blanks that may stand around a numeral. -/
def isSpace (c : Char) : Bool :=
  c == ' ' || (9 ≤ c.toNat && c.toNat ≤ 13)

/-- The most digits of a decimal integer that is read or written. -/
def maxDigits : Nat :=
  4300

inductive IntegerFault where
  | malformed
  | tooLong (digits : Nat)
  deriving DecidableEq, Repr

/-- The letter that marks a base after a zero. -/
def baseMark? (base : Nat) : Option Char :=
  if base = 2 then some 'b' else if base = 8 then some 'o' else if base = 16 then some 'x' else none

/-- What follows the mark of a base, if it is there. -/
def dropBaseMark (base : Nat) (text : List Char) : List Char :=
  match text with
  | '0' :: c :: rest => if baseMark? base = some c.toLower then rest else '0' :: c :: rest
  | text => text

/-- The integer that a text spells in a base, whose mark may stand in front of the digits. -/
def integer (base : Nat) (text : List Char) : Except IntegerFault Int :=
  let (negative, body) := signOf ((text.map plainChar).dropWhile isSpace)
  let body := dropBaseMark base body
  let digits := body.takeWhile fun c => decide ((digitValue? c).getD base < base)
  if base = 10 && maxDigits < digits.length then .error (.tooLong digits.length)
  else if digits.isEmpty || !(body.drop digits.length).all isSpace then .error .malformed
  else .ok (signed negative (digitsValue base digits))

/-- The exponent that a text begins with, and what follows it. Nothing written is the exponent zero.
-/
def exponentAt (text : List Char) : Int × List Char :=
  match text with
  | c :: rest =>
    if c == 'e' || c == 'E' then
      let (negative, body) := signOf rest
      let digits := body.takeWhile Char.isDigit
      if digits.isEmpty then (0, text)
      else (signed negative (digitsValue 10 digits), body.drop digits.length)
    else (0, text)
  | [] => (0, text)

/-- What follows a word that a text begins with, in any case. -/
def afterWord? (word : String) (text : List Char) : Option (List Char) :=
  if (text.take word.length).map Char.toLower = word.toList then some (text.drop word.length)
  else none

/-- The infinity, or what is no number, that a text begins with, and what follows it. -/
def specialAt? (negative : Bool) (text : List Char) : Option (Binary64 × List Char) :=
  match afterWord? "infinity" text <|> afterWord? "inf" text, afterWord? "nan" text with
  | some rest, _ => some (.infinite negative, rest)
  | none, some rest => some (.nan, rest)
  | none, none => none

/-- The decimal that a text begins with, and what follows it: digits with at most one point and an
exponent, or a word for infinity or for what is no number, all after an optional sign. -/
def decimalAt? (text : List Char) : Option (Binary64 × List Char) :=
  let (negative, body) := signOf text
  let whole := body.takeWhile Char.isDigit
  let (part, rest) :=
    match body.drop whole.length with
    | '.' :: rest =>
      let part := rest.takeWhile Char.isDigit
      (part, rest.drop part.length)
    | rest => ([], rest)
  if whole.isEmpty && part.isEmpty then specialAt? negative body
  else
    let (exponent, rest) := exponentAt rest
    some (.ofDecimal negative (digitsValue 10 (whole ++ part)) (exponent - part.length), rest)

def decimal? (text : List Char) : Option Binary64 :=
  match decimalAt? ((text.map plainChar).dropWhile isSpace) with
  | some (value, rest) => if rest.all isSpace then some value else none
  | none => none

/-- The text without the low lines that stand between digits; nothing if one stands elsewhere. -/
def withoutLines? : (afterDigit : Bool) → List Char → Option (List Char)
  | _, [] => some []
  | afterDigit, '_' :: rest =>
    if afterDigit && (rest.head?.map Char.isDigit).getD false then withoutLines? false rest
    else none
  | _, c :: rest => (withoutLines? c.isDigit rest).map (c :: ·)

/-- What follows the letter that marks an imaginary number. -/
def afterUnit? : List Char → Option (List Char)
  | 'j' :: rest => some rest
  | 'J' :: rest => some rest
  | _ => none

/-- What follows the complex number that a text begins with: a real number, an imaginary one, or the
sum of the two. A sign alone before the imaginary unit will do. -/
def afterComplex? (text : List Char) : Option (List Char) :=
  match decimalAt? text with
  | some (_, rest) =>
    match rest with
    | c :: more =>
      if c == '+' || c == '-' then
        afterUnit? (((decimalAt? rest).map (·.2)).getD more)
      else some ((afterUnit? rest).getD rest)
    | [] => some []
  | none => afterUnit? (signOf text).2

def isComplex (text : List Char) : Bool :=
  match withoutLines? false (text.map plainChar) with
  | none => false
  | some text =>
    match text.dropWhile isSpace with
    | '(' :: inside =>
      match (afterComplex? (inside.dropWhile isSpace)).map (List.dropWhile isSpace) with
      | some (')' :: rest) => rest.all isSpace
      | _ => false
    | text => ((afterComplex? text).map (List.all · isSpace)).getD false

end EndpointDocs.Numeral
