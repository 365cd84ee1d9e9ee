import EndpointDocs.Payload.Registry
import EndpointDocs.Text.Blank
import EndpointDocs.Text.Word

/-!
Declared types of fields. An optional type, written with a wrapper or with an alternative, means the
type inside; a slice is written with brackets in front or with the wrapper of a collection. What is
left names the base type, without its module.
-/
namespace EndpointDocs

structure FieldType where
  isSlice : Bool
  /-- Whether the base type is registered. -/
  isRegistered : Bool
  base : String
  deriving DecidableEq, Repr

namespace FieldType

def isNameChar (c : Char) : Bool :=
  Text.isWord c || c == '.'

/-- Whether `head` is one of the wrappers, bare or after a dotted qualifier that is not empty. -/
def isWrapper (wrappers : List String) (head : List Char) : Bool :=
  wrappers.any fun wrapper =>
    head == wrapper.toList ||
      (('.' :: wrapper.toList).isSuffixOf head && head.all isNameChar &&
        wrapper.length + 1 < head.length)

/-- The inside of a wrapper's brackets, where they enclose the rest of the text. -/
def inside? (wrappers : List String) (text : List Char) : Option (List Char) :=
  let head := Text.before '[' text
  let tail := text.drop head.length
  if isWrapper wrappers head && tail.head? = some '[' && tail.getLast? = some ']' then
    let inner := (tail.drop 1).dropLast
    if inner.isEmpty || inner.contains '\n' then none else some inner
  else none

/-- The element of a tuple of any length, written with an ellipsis. -/
def tupleElement? (text : List Char) : Option (List Char) :=
  let head := Text.before '[' text
  if isWrapper ["tuple", "Tuple"] head then
    let inner := text.drop (head.length + 1)
    let element := inner.takeWhile fun c => c != ',' && c != ']'
    match inner.drop element.length with
    | ',' :: rest =>
      if !element.isEmpty && rest.dropWhile Text.isBlank == "...]".toList then some element
      else none
    | _ => none
  else none

/-- The type inside an optional one; any other type stays. -/
def stripOptional (declared : List Char) : List Char :=
  let text := Text.trimChars declared
  match inside? ["Optional"] text with
  | some inner => Text.trimChars inner
  | none =>
    let options := (text.splitOn '|').map Text.trimChars
    match options.filter (· != "None".toList) with
    -- one alternative beside `None`, which may be written more than once
    | [only] => if 1 < options.length then only else text
    | _ => text

def collections : List String :=
  ["list", "List", "Sequence", "MutableSequence", "Iterable", "set", "Set", "frozenset"]

def element? (text : List Char) : Option (List Char) :=
  match text with
  | '[' :: ']' :: rest => some rest
  | _ =>
    match inside? collections text with
    | some inner => some inner
    | none => tupleElement? text

/-- Whether a declared type is a slice, and the name of its base type. -/
def baseOf (declared : List Char) : Bool × List Char :=
  let text := stripOptional declared
  match element? text with
  | some element => (true, Text.afterLast '.' (stripOptional element))
  -- stripped once more: an optional type may be optional inside
  | none => (false, Text.afterLast '.' (stripOptional text))

def analyze (registry : Registry) (declared : String) : FieldType :=
  let (isSlice, base) := baseOf declared.toList
  ⟨isSlice, registry.has (String.ofList base), String.ofList base⟩

/-- How the type is shown: its base name, after brackets for a slice. -/
def shown (type : FieldType) : String :=
  if type.isSlice then "[]" ++ type.base else type.base

end FieldType

end EndpointDocs
