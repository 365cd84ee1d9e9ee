import EndpointDocs.Text.Quoted

/-!
Why a YAML text gives no value.
-/
namespace EndpointDocs.Yaml

inductive Error where
  | malformed
  /-- An escape for a code that no character has. -/
  | noCharacter (code : Nat)
  /-- A version of the language that is not known. -/
  | unknownVersion (major minor : Nat)
  /-- A date, time of day or zone that does not exist. -/
  | noSuchMoment (message : String)
  /-- A moment after the last one that can be told. -/
  | tooLate
  | noInteger (base : Nat) (text : String)
  | longInteger (digits : Nat)
  | noDecimal (text : String)
  /-- A decimal with more than one exponent, in the older version of the language. -/
  | severalExponents
  /-- A number that is tagged as such and has no characters. -/
  | emptyNumber
  | noTruthValue (text : String)
  /-- A key that has a collection of this kind among its parts. -/
  | changingKey (kindName : String)
  /-- A key that comes twice where members are given one after another. -/
  | repeatedKey
  deriving DecidableEq, Repr

/-- The code of an escape is read as a number with a sign, which has 31 bits beside it. -/
def maxCode : Nat :=
  0x7FFFFFFF

def Error.message : Error → String
  | .malformed => ""
  | .noCharacter code =>
    if code ≤ maxCode then "chr() arg not in range(0x110000)"
    else "Python int too large to convert to C int"
  | .unknownVersion major minor =>
    "version minor part can only be 2 or 1, got (" ++ toString major ++ ", " ++ toString minor ++
      ")"
  | .noSuchMoment message => message
  | .tooLate => "date value out of range"
  | .noInteger base text =>
    "invalid literal for int() with base " ++ toString base ++ ": " ++
      String.ofList ((Text.quoted text).toList.take 200)
  | .longInteger digits =>
    "Exceeds the limit (4300 digits) for integer string conversion: value has " ++
      toString digits ++ " digits; use sys.set_int_max_str_digits() to increase the limit"
  | .noDecimal text => "could not convert string to float: " ++ Text.quoted text
  | .severalExponents => "too many values to unpack (expected 2)"
  | .emptyNumber => "string index out of range"
  | .noTruthValue text => Text.quoted text
  | .changingKey kindName => "unhashable type: '" ++ kindName ++ "'"
  | .repeatedKey => ""

end EndpointDocs.Yaml
