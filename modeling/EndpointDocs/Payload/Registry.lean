import EndpointDocs.OrderedMap
import EndpointDocs.Text.Quoted

/-!
The payload types that endpoints take and return, by name. A type lists its fields in the order of
their declaration; each field has the text of its declared type. Registering a name again replaces
the type.
-/
namespace EndpointDocs

structure Field where
  name : String
  declared : String
  deriving DecidableEq, Repr

/-- Types by name, each with its fields in order of declaration. -/
structure Registry where
  types : OrderedMap String (List Field)
  deriving DecidableEq, Repr

namespace Registry

def empty : Registry :=
  ⟨OrderedMap.empty⟩

def register (registry : Registry) (name : String) (fields : List Field) : Registry :=
  ⟨registry.types.put name fields⟩

def has (registry : Registry) (name : String) : Bool :=
  registry.types.has name

def fields? (registry : Registry) (name : String) : Option (List Field) :=
  registry.types.get? name

def size (registry : Registry) : Nat :=
  registry.types.size

def names (registry : Registry) : List String :=
  registry.types.keys

def sortedNames (registry : Registry) : List String :=
  registry.names.mergeSort (fun a b => decide (a ≤ b))

end Registry

end EndpointDocs
