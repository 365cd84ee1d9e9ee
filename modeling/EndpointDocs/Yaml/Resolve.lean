import EndpointDocs.Number.Numeral
import EndpointDocs.Setting.Value
import EndpointDocs.Text.Base64
import EndpointDocs.Text.LowerCase
import EndpointDocs.Yaml.Cursor
import EndpointDocs.Yaml.Error

/-!
What scalars stand for. The spelling of a plain scalar gives it a tag: null, truth values, integers,
decimals and moments are known by theirs, and everything else is text. The tag, whether found so or
written in front of the scalar, says how the value is read.
-/
namespace EndpointDocs.Yaml

def standardTag (kind : String) : String :=
  "tag:yaml.org,2002:" ++ kind

/-- Whether the text is not empty and has only characters that satisfy `p`. -/
def consistsOf (p : Char → Bool) (text : List Char) : Bool :=
  !text.isEmpty && text.all p

def isDigitOrLine (c : Char) : Bool :=
  c.isDigit || c == '_'

def isOctalOrLine (c : Char) : Bool :=
  ('0' ≤ c && c ≤ '7') || c == '_'

/-- Whether a text consists of digits and low lines after a digit. -/
def isDigitsFrom (first : Char → Bool) (text : List Char) : Bool :=
  (text.head?.map first).getD false && text.all isDigitOrLine

/-- Whether a text is a number from 0 to 59, in one or two digits. -/
def isSixtieth (text : List Char) : Bool :=
  match text with
  | [c] => c.isDigit
  | [c, d] => '0' ≤ c && c ≤ '5' && d.isDigit
  | _ => false

/-- Whether a text without its sign is spelled as an integer. -/
def isInteger (older : Bool) (body : List Char) : Bool :=
  match body with
  | '0' :: 'b' :: digits => consistsOf (fun c => c == '0' || c == '1' || c == '_') digits
  | '0' :: 'x' :: digits =>
    consistsOf (fun c => (Numeral.digitValue? c).isSome || c == '_') digits
  | '0' :: 'o' :: digits => !older && consistsOf isOctalOrLine digits
  | body =>
    if older then
      consistsOf isOctalOrLine body || isDigitsFrom (fun c => c.isDigit && c != '0') body ||
        -- hours, minutes and seconds make one number
        match body.splitOn ':' with
        | whole :: sixtieths =>
          isDigitsFrom (fun c => c.isDigit && c != '0') whole && !sixtieths.isEmpty &&
            sixtieths.all isSixtieth
        | [] => false
    else consistsOf isDigitOrLine body

/-- Whether a text is an exponent with its letter; its sign may be required. -/
def isExponent (signRequired : Bool) (text : List Char) : Bool :=
  match text with
  | c :: rest =>
    let digits := (Numeral.signOf rest).2
    (c == 'e' || c == 'E') && !(signRequired && digits.length == rest.length) &&
      consistsOf Char.isDigit digits
  | [] => false

/-- Whether a text without its sign is spelled as a decimal fraction or with an exponent. -/
def isDecimal (older signGiven : Bool) (body : List Char) : Bool :=
  let whole := body.takeWhile isDigitOrLine
  let fromDigit := isDigitsFrom Char.isDigit whole
  match body.drop whole.length with
  | '.' :: rest =>
    let part := rest.takeWhile isDigitOrLine
    let tail := rest.drop part.length
    if whole.isEmpty then
      -- without a digit in front of the point, an exponent must have its sign
      !(older && signGiven) && !part.isEmpty && (tail.isEmpty || isExponent true tail)
    else fromDigit && (tail.isEmpty || isExponent false tail)
  | ':' :: rest =>
    older && fromDigit &&
      match rest.dropWhile (· != '.') with
      | _ :: part =>
        ((rest.takeWhile (· != '.')).splitOn ':').all isSixtieth && part.all isDigitOrLine
      | [] => false
  | tail => fromDigit && isExponent false tail

/-- Whether a text is spelled as infinity or as what is no number. -/
def isSpecial (text : List Char) : Bool :=
  [".inf", ".Inf", ".INF"].contains (String.ofList (Numeral.signOf text).2) ||
    [".nan", ".NaN", ".NAN"].contains (String.ofList text)

structure Clock where
  hour : Nat
  minute : Nat
  second : Nat
  fraction : List Char
  zone : Option Zone
  deriving DecidableEq, Repr

/-- A date, perhaps with a time of day, as it is written. -/
structure Stamp where
  year : Nat
  month : Nat
  day : Nat
  /-- Whether month and day have two digits each. -/
  isFull : Bool
  clock : Option Clock
  deriving DecidableEq, Repr

/-- The digits at the beginning of a text, if there are at least `least` and at most `most`, and
what follows them. -/
def digitsAt? (least most : Nat) (text : List Char) : Option (List Char × List Char) :=
  let digits := text.takeWhile Char.isDigit
  if least ≤ digits.length && digits.length ≤ most then some (digits, text.drop digits.length)
  else none

/-- What follows a mark. -/
def behind? (mark : Char) (text : List Char) : Option (List Char) :=
  if text.head? = some mark then some (text.drop 1) else none

/-- The zone that a text spells: the letter for universal time, or hours and minutes with a sign. -/
def zone? (text : List Char) : Option Zone :=
  match text with
  | ['Z'] => some ⟨0, "Z"⟩
  | sign :: rest =>
    if sign == '+' || sign == '-' then do
      let (hours, rest) ← digitsAt? 1 2 rest
      let (minutes, rest) ←
        if rest.isEmpty then some ([], []) else (behind? ':' rest).bind (digitsAt? 2 2)
      let size : Int := Numeral.digitsValue 10 hours * 60 + Numeral.digitsValue 10 minutes
      if rest.isEmpty then some ⟨if sign == '-' then -size else size, String.ofList text⟩ else none
    else none
  | [] => none

def clock? (text : List Char) : Option Clock := do
  let (hour, rest) ← digitsAt? 1 2 text
  let (minute, rest) ← (behind? ':' rest).bind (digitsAt? 2 2)
  let (second, rest) ← (behind? ':' rest).bind (digitsAt? 2 2)
  let (fraction, rest) :=
    match rest with
    | '.' :: rest => (rest.takeWhile Char.isDigit, rest.dropWhile Char.isDigit)
    | rest => ([], rest)
  let zone ← if rest.isEmpty then some none else (zone? (rest.dropWhile isBlankOrTab)).map some
  return ⟨Numeral.digitsValue 10 hour, Numeral.digitsValue 10 minute,
    Numeral.digitsValue 10 second, fraction, zone⟩

/-- The moment that a text spells, whether it exists or not. -/
def stamp? (text : List Char) : Option Stamp := do
  let (year, rest) ← digitsAt? 4 4 text
  let (month, rest) ← (behind? '-' rest).bind (digitsAt? 1 2)
  let (day, rest) ← (behind? '-' rest).bind (digitsAt? 1 2)
  let clock ←
    match rest with
    | [] => some none
    | c :: rest =>
      if c == 'T' || c == 't' then (clock? rest).map some
      else if isBlankOrTab c then (clock? (rest.dropWhile isBlankOrTab)).map some
      else none
  return ⟨Numeral.digitsValue 10 year, Numeral.digitsValue 10 month, Numeral.digitsValue 10 day,
    month.length == 2 && day.length == 2, clock⟩

def truthWords (older : Bool) : List String :=
  ["true", "True", "TRUE", "false", "False", "FALSE"] ++
    if older then
      ["y", "Y", "yes", "Yes", "YES", "n", "N", "no", "No", "NO", "on", "On", "ON", "off", "Off",
        "OFF"]
    else []

/-- The kind of a plain scalar, by its spelling. -/
def plainKind (older : Bool) (text : List Char) : String :=
  let word := String.ofList text
  let body := (Numeral.signOf text).2
  let signGiven := body.length != text.length
  let fromLine := text.head? = some '_'
  if (truthWords older).contains word then "bool"
  else if isSpecial text || (!fromLine && isDecimal older signGiven body) then "float"
  else if !fromLine && isInteger older body then "int"
  else if word = "<<" then "merge"
  else if ["~", "null", "Null", "NULL"].contains word then "null"
  else if ((stamp? text).map fun stamp => stamp.isFull || stamp.clock.isSome).getD false then
    "timestamp"
  else if word = "=" then "value"
  else if ["!", "&", "*"].contains word then "yaml"
  else "str"

/-- The text without the line break at its end. -/
def withoutLastBreak (text : List Char) : List Char :=
  if text.getLast? = some '\n' then text.dropLast else text

def plainTag (language : Version) (text : String) : String :=
  if text.isEmpty then standardTag "null"
  else standardTag (plainKind (language = Version.older) (withoutLastBreak text.toList))

/-- What is wrong with a date. -/
def dateFault? (year month day : Nat) : Option String :=
  if year == 0 then some "year 0 is out of range"
  else if month == 0 || 12 < month then some "month must be in 1..12"
  else if day == 0 || Moment.daysOf year month < day then some "day is out of range for month"
  else none

def clockFault? (clock : Clock) : Option String :=
  if 23 < clock.hour then some "hour must be in 0..23"
  else if 59 < clock.minute then some "minute must be in 0..59"
  else if 59 < clock.second then some "second must be in 0..59"
  else none

/-- What is wrong with a zone: it must be less than a day away from universal time. -/
def zoneFault? (zone : Zone) : Option String :=
  if zone.minutes.natAbs < 1440 then none
  else
    some ("offset must be a timedelta strictly between -timedelta(hours=24) and " ++
      "timedelta(hours=24), not " ++ Setting.spanShown zone.minutes ++ ".")

/-- The microseconds that the digits of a fraction spell, rounded by the seventh digit alone. -/
def fractionMicroseconds (digits : List Char) : Nat :=
  let six := digits.take 6
  let kept := Numeral.digitsValue 10 (six ++ List.replicate (6 - six.length) '0')
  match digits.drop 6 with
  | c :: _ => if 4 < (Numeral.digitValue? c).getD 0 then kept + 1 else kept
  | [] => kept

/-- The moment of a date and a time of day, if there is one. A fraction that is rounded up to a
whole second moves the moment on. -/
def momentOf (stamp : Stamp) (clock : Clock) : Except Error Setting :=
  match (clock.zone.bind zoneFault?) <|> dateFault? stamp.year stamp.month stamp.day <|>
      clockFault? clock with
  | some message => .error (.noSuchMoment message)
  | none =>
    let fraction := fractionMicroseconds clock.fraction
    let moment : Moment :=
      ⟨stamp.year, stamp.month, stamp.day, clock.hour, clock.minute, clock.second, 0⟩
    if 999999 < fraction then
      match moment.nextSecond? with
      | some moment => .ok (.moment moment clock.zone)
      | none => .error .tooLate
    else .ok (.moment { moment with microsecond := fraction } clock.zone)

/-- The value of a scalar that is a date or a moment. -/
def timestampValue (text : String) : Except Error Setting :=
  match stamp? (withoutLastBreak text.toList) with
  | none => .error .malformed
  | some stamp =>
    match stamp.clock with
    | some clock => momentOf stamp clock
    | none =>
      match dateFault? stamp.year stamp.month stamp.day with
      | some message => .error (.noSuchMoment message)
      | none => .ok (.date stamp.year stamp.month stamp.day)

def truthValue (text : String) : Except Error Setting :=
  let word := Text.lower text
  if ["yes", "y", "true", "on"].contains word then .ok (.bool true)
  else if ["no", "n", "false", "off"].contains word then .ok (.bool false)
  else .error (.noTruthValue word)

def integerIn (base : Nat) (text : List Char) : Except Error Int :=
  match Numeral.integer base text with
  | .ok value => .ok value
  | .error .malformed => .error (.noInteger base (String.ofList text))
  | .error (.tooLong digits) => .error (.longInteger digits)

/-- The number whose sixtieths are integers, the last of them being units. -/
def sixtiethsValue : List (List Char) → Int → Except Error Int
  | [], value => .ok value
  | part :: rest, value =>
    match integerIn 10 part with
    | .ok digit => sixtiethsValue rest (value * 60 + digit)
    | .error error => .error error

/-- The integer of a text without its sign: decimal, or binary, octal or hexadecimal after its mark.
Not in the current version of the language, a zero in front marks octal digits too, and colons part
sixtieths. -/
def unsignedInteger (language : Version) (body : List Char) : Except Error Int :=
  match body with
  | ['0'] => .ok 0
  | '0' :: 'b' :: digits => integerIn 2 digits
  | '0' :: 'x' :: digits => integerIn 16 digits
  | '0' :: 'o' :: digits => integerIn 8 digits
  | body =>
    if language = Version.standard then integerIn 10 body
    else
      match body with
      | [] => .error .emptyNumber
      | '0' :: _ => integerIn 8 body
      | body =>
        if body.contains ':' then sixtiethsValue (body.splitOn ':') 0 else integerIn 10 body

/-- The value of a scalar that is an integer. Low lines say nothing. -/
def integerValue (language : Version) (text : String) : Except Error Setting :=
  let text := text.toList.filter (· != '_')
  if text.isEmpty then .error .emptyNumber
  else
    let (negative, body) := Numeral.signOf text
    (unsignedInteger language body).map fun value => .int (if negative then -value else value)

def decimalOf (text : List Char) : Except Error Binary64 :=
  match Numeral.decimal? text with
  | some value => .ok value
  | none => .error (.noDecimal (String.ofList text))

/-- The sum of decimals of which the first counts once, the next sixty times, and so on. -/
def decimalSum : List Binary64 → Nat → Binary64 → Binary64
  | [], _, sum => sum
  | digit :: rest, weight, sum =>
    decimalSum rest (weight * 60) (sum.add (digit.times weight))

/-- The decimal of a text without its sign. Not in the current version of the language, colons part
sixtieths. -/
def unsignedDecimal (language : Version) (body : List Char) : Except Error Binary64 :=
  if body = ".inf".toList then .ok (.infinite false)
  else if body = ".nan".toList then .ok .nan
  else if language = Version.standard then decimalOf body
  else if body.contains ':' then
    ((body.splitOn ':').mapM decimalOf).map fun digits =>
      decimalSum digits.reverse 1 (.finite false 0 Binary64.minExponent)
  else if 1 < body.count 'e' then .error .severalExponents
  else decimalOf body

/-- The value of a scalar that is a decimal. Low lines say nothing. -/
def decimalValue (language : Version) (text : String) : Except Error Setting :=
  let text := (Text.lower (String.ofList (text.toList.filter (· != '_')))).toList
  if text.isEmpty then .error .emptyNumber
  else
    let (negative, body) := Numeral.signOf text
    (unsignedDecimal language body).map fun value =>
      .float (if negative then value.negated else value)

def bytesValue (text : String) : Except Error Setting :=
  if text.toList.all fun c => c.toNat < 128 then
    match Text.Base64.decode? text.toList with
    | some bytes => .ok (.bytes bytes)
    | none => .error .malformed
  else .error .malformed

/-- The kinds of values that are read off a single text. Halves of surrogate pairs are kept where a
text is wanted; no number, truth value or row of bytes has any, nor a replacement character. -/
def scalarReader? (language : Version) (tag : String) : Option (Wide → Except Error Setting) :=
  if tag = standardTag "str" then some fun text => .ok (.text text)
  else if tag = standardTag "null" then some fun _ => .ok .null
  else if tag = standardTag "bool" then some fun text => truthValue text.replaced
  else if tag = standardTag "int" then some fun text => integerValue language text.replaced
  else if tag = standardTag "float" then some fun text => decimalValue language text.replaced
  else if tag = standardTag "binary" then some fun text => bytesValue text.replaced
  else none

end EndpointDocs.Yaml
