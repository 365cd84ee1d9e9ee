import EndpointDocs.Text.Quoted

/-!
JSON documents and how they are written: in ASCII, with escapes for every other character, on one
line or with one line per element and four blanks per level.
-/
namespace EndpointDocs.Json

/-- A JSON document. A number is `mantissa / 10 ^ places`, written with that many places. -/
inductive Value where
  | null
  | bool (value : Bool)
  | number (mantissa : Int) (places : Nat)
  | string (text : String)
  | array (items : List Value)
  | object (members : List (String × Value))
  deriving Repr

/-- One UTF-16 unit as an escape. -/
def unitEscape (unit : Nat) : List Char :=
  ['\\', 'u'] ++ Text.hexDigits 4 unit

def charText (c : Char) : List Char :=
  let n := c.toNat
  if c == '"' || c == '\\' then ['\\', c]
  else if c == '\n' then ['\\', 'n']
  else if c == '\r' then ['\\', 'r']
  else if c == '\t' then ['\\', 't']
  else if n == 8 then ['\\', 'b']
  else if n == 12 then ['\\', 'f']
  else if 32 ≤ n && n < 127 then [c]
  else if n < 0x10000 then unitEscape n
  else unitEscape (0xD800 + (n - 0x10000) / 1024) ++ unitEscape (0xDC00 + (n - 0x10000) % 1024)

def stringText (text : String) : List Char :=
  '"' :: text.toList.flatMap charText ++ ['"']

def numberText (mantissa : Int) (places : Nat) : List Char :=
  let digits := Nat.toDigits 10 mantissa.natAbs
  let digits := List.replicate (places + 1 - digits.length) '0' ++ digits
  let whole := digits.take (digits.length - places)
  let part := digits.drop (digits.length - places)
  (if mantissa < 0 then ['-'] else []) ++ whole ++ (if places = 0 then [] else '.' :: part)

/-- What stands before an element: nothing on one line, else a line break and the indentation. -/
structure Layout where
  /-- What follows a comma and a bracket, per level of nesting. -/
  start : Nat → List Char
  /-- What separates two elements after the comma. -/
  between : Nat → List Char

def indentation (level : Nat) : List Char :=
  '\n' :: List.replicate (4 * level) ' '

/-- One line per element. -/
def Layout.indented : Layout :=
  ⟨indentation, indentation⟩

/-- Everything on one line, with a blank after each comma. -/
def Layout.oneLine : Layout :=
  ⟨fun _ => [], fun _ => [' ']⟩

mutual

def write (layout : Layout) (level : Nat) : Value → List Char
  | .null => "null".toList
  | .bool true => "true".toList
  | .bool false => "false".toList
  | .number mantissa places => numberText mantissa places
  | .string text => stringText text
  | .array [] => "[]".toList
  | .array (item :: rest) =>
    '[' :: layout.start (level + 1) ++ write layout (level + 1) item ++
      writeItems layout (level + 1) rest ++ layout.start level ++ [']']
  | .object [] => ['\x7b', '\x7d']
  | .object ((name, value) :: rest) =>
    '\x7b' :: layout.start (level + 1) ++ stringText name ++ [':', ' '] ++
      write layout (level + 1) value ++ writeMembers layout (level + 1) rest ++
      layout.start level ++ ['\x7d']

def writeItems (layout : Layout) (level : Nat) : List Value → List Char
  | [] => []
  | item :: rest =>
    ',' :: layout.between level ++ write layout level item ++ writeItems layout level rest

def writeMembers (layout : Layout) (level : Nat) : List (String × Value) → List Char
  | [] => []
  | (name, value) :: rest =>
    ',' :: layout.between level ++ stringText name ++ [':', ' '] ++ write layout level value ++
      writeMembers layout level rest

end

def Value.pretty (value : Value) : String :=
  String.ofList (write Layout.indented 0 value)

def Value.compact (value : Value) : String :=
  String.ofList (write Layout.oneLine 0 value)

end EndpointDocs.Json
