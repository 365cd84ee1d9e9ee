import EndpointDocs.Text.Blank

/-!
Texts of code points. Besides characters they may hold halves of surrogate pairs, which are none: an
escape can name one, and in the name of a file some of them stand for bytes that spell no text. No
file is decoded to a half, and a text with one cannot be encoded.
-/
namespace EndpointDocs

/-- A character, or a half of a surrogate pair, counted from the first of them. -/
inductive CodePoint where
  | char (c : Char)
  | half (index : Fin 0x800)
  deriving DecidableEq, Repr

namespace CodePoint

instance : Coe Char CodePoint :=
  ⟨.char⟩

def number : CodePoint → Nat
  | .char c => c.toNat
  | .half index => 0xD800 + index.val

/-- The code point with a number below the last one. -/
def ofNumber (number : Nat) : CodePoint :=
  if isHalf : 0xD800 ≤ number ∧ number - 0xD800 < 0x800 then .half ⟨number - 0xD800, isHalf.2⟩
  else .char (Char.ofNat number)

instance : LT CodePoint :=
  ⟨fun a b => a.number < b.number⟩

instance : LE CodePoint :=
  ⟨fun a b => a.number ≤ b.number⟩

instance (a b : CodePoint) : Decidable (a < b) :=
  inferInstanceAs (Decidable (a.number < b.number))

instance (a b : CodePoint) : Decidable (a ≤ b) :=
  inferInstanceAs (Decidable (a.number ≤ b.number))

def char? : CodePoint → Option Char
  | .char c => some c
  | .half _ => none

def isBlank : CodePoint → Bool
  | .char c => Text.isBlank c
  | .half _ => false

end CodePoint

abbrev Wide := List CodePoint

namespace Wide

def ofString (text : String) : Wide :=
  text.toList.map .char

instance : Coe String Wide :=
  ⟨ofString⟩

/-- The characters of a text that has no halves. -/
def chars? : Wide → Option (List Char)
  | [] => some []
  | .char c :: rest => (chars? rest).map (c :: ·)
  | .half _ :: _ => none

/-- The text with a replacement character for each half. -/
def replaced (text : Wide) : String :=
  String.ofList (text.map fun point => point.char?.getD '�')

def trim (text : Wide) : Wide :=
  Text.trimBy CodePoint.isBlank text

def isBlank (text : Wide) : Bool :=
  text.all CodePoint.isBlank

/-- What follows the first occurrence of `mark` in a text without halves. -/
def after? (mark : Wide) (text : List Char) : Option (List Char) :=
  mark.chars?.bind fun mark => Text.after? mark text

/-- Whether a text without halves starts with `mark`. -/
def starts (mark : Wide) (text : List Char) : Bool :=
  mark.chars?.any (·.isPrefixOf text)

end Wide

end EndpointDocs
