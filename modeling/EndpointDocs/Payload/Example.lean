import EndpointDocs.Json.Value
import EndpointDocs.Payload.Rows

/-!
Example payloads: an object with a member for each field of a type. A field of a registered type
has that type's example, any other the zero of its type, and a slice has one element. A type is
not entered again below itself: there its example is the empty object.
-/
namespace EndpointDocs.Registry

open EndpointDocs.Json (Value)

/-- The zero of a type that is not registered; null for a type without one. -/
def zeroOf (base : String) : Value :=
  if ["str", "string", "bytes"].contains base then .string ""
  else if ["int", "int64"].contains base then .number 0 0
  else if ["float", "float64"].contains base then .number 0 1
  else if base = "Decimal" then .string "0"
  else if base = "bool" then .bool false
  else if ["datetime", "Time"].contains base then .string "1970-01-01T00:00:00Z"
  else if base = "date" then .string "1970-01-01"
  else if base = "UUID" then .string "00000000-0000-0000-0000-000000000000"
  else .null

/-- Puts a member in the place of the one with its name, or at the end. -/
def putMember (members : List (String × Value)) (name : String) (value : Value) :
    List (String × Value) :=
  OrderedMap.putEntry name value members

/-- The example for `fields`, where the types in `enterable` may be entered. -/
def exampleOf (registry : Registry) (fields : List Field) (enterable : List String) : Value :=
  .object <| fields.foldl (fun members field =>
    let type := FieldType.analyze registry field.declared
    let value :=
      if _entered : type.base ∈ enterable then
        registry.exampleOf ((registry.fields? type.base).getD []) (enterable.erase type.base)
      else if type.isRegistered then .object []
      else zeroOf type.base
    putMember members field.name (if type.isSlice then .array [value] else value)) []
termination_by enterable.length
decreasing_by
  exact length_erase_lt _entered

/-- The example for a type, when the types of `expanding` are not to be entered; nothing if the type
is not registered. -/
def example? (registry : Registry) (name : String) (expanding : List String) : Option Value :=
  if expanding.contains name then some (.object [])
  else
    (registry.fields? name).map fun fields =>
      registry.exampleOf fields (registry.namesOutside (name :: expanding))

/-- The example that a text refers to; a text that refers to nothing is its own example. -/
def exampleFor (registry : Registry) (text : String) : String :=
  match registry.reference text with
  | .registered name => ((registry.example? name []).map Value.pretty).getD ""
  | .string => (Value.string "string").pretty
  | .none => Text.trim text

end EndpointDocs.Registry
