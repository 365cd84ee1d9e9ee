import EndpointDocs.Glossary.Basic
import EndpointDocs.Html.Basic
import EndpointDocs.Payload.FieldType

/-!
The field table of a payload type. Each field has a row, and the rows of a field whose base type
is registered follow its own, one level deeper and with the type's name in front of theirs. A type
is not entered again below itself, so that types may refer to each other in circles.
-/
namespace EndpointDocs

structure FieldRow where
  /-- The indentation and the path, as shown. -/
  label : Html
  dataType : String
  definition : String
  optional : Bool
  path : String
  depth : Int
  deriving DecidableEq, Repr

namespace FieldRow

def indentUnit : String :=
  "&nbsp;&nbsp;&nbsp;&nbsp;"

/-- The indentation of a level; levels that are not positive have none. -/
def indentation (depth : Int) : Html :=
  ⟨String.join (List.replicate depth.toNat indentUnit)⟩

/-- The definition of a field: of its path, or else of its bare name. -/
def definitionOf (glossary : Glossary) (path name : String) : String :=
  let definition := glossary.define path
  if definition.isEmpty && path ≠ name then glossary.define name else definition

def ofField (glossary : Glossary) (qualifier : String) (depth : Int) (field : Field)
    (type : FieldType) : FieldRow :=
  let path := qualifier ++ field.name
  { label := indentation depth ++ Html.escape path
    dataType := type.shown
    definition := definitionOf glossary path field.name
    optional := false
    path
    depth }

end FieldRow

namespace Registry

/-- The names of registered types that are not in `excluded`. -/
def namesOutside (registry : Registry) (excluded : List String) : List String :=
  registry.names.filter fun name => !excluded.contains name

theorem length_erase_lt {names : List String} {name : String} (listed : name ∈ names) :
    (names.erase name).length < names.length := by
  rw [List.length_erase_of_mem listed]
  have positive := List.length_pos_of_mem listed
  omega

/-- The rows of `fields` and of the types below them, of which those in `enterable` may be
entered. -/
def rowsOf (registry : Registry) (glossary : Glossary) (fields : List Field) (qualifier : String)
    (depth : Int) (enterable : List String) : List FieldRow :=
  fields.flatMap fun field =>
    let type := FieldType.analyze registry field.declared
    FieldRow.ofField glossary qualifier depth field type ::
      if _entered : type.base ∈ enterable then
        registry.rowsOf glossary ((registry.fields? type.base).getD [])
          (qualifier ++ type.base ++ ".") (depth + 1) (enterable.erase type.base)
      else []
termination_by enterable.length
decreasing_by
  exact length_erase_lt _entered

/-- The field table of a type, when the types of `expanding` are not to be entered; nothing if the
type is not registered. -/
def table? (registry : Registry) (glossary : Glossary) (name : String) (qualifier : String)
    (depth : Int) (expanding : List String) : Option (List FieldRow) :=
  (registry.fields? name).map fun fields =>
    registry.rowsOf glossary fields qualifier depth (registry.namesOutside (name :: expanding))

/-- What a text refers to: its first word that names a registered type or, in any case, a string. -/
inductive Reference where
  | registered (name : String)
  | string
  | none
  deriving DecidableEq, Repr

/-- What the first telling word of a list refers to. -/
def referenceIn (registry : Registry) : List String → Reference
  | [] => .none
  | word :: rest =>
    if registry.has word then .registered word
    else if Text.lower word = "string" then .string
    else registry.referenceIn rest

def reference (registry : Registry) (text : String) : Reference :=
  registry.referenceIn (Text.words text)

def stringRow : FieldRow :=
  { label := ⟨"data"⟩, dataType := "string", definition := "", optional := false, path := "data",
    depth := 0 }

def tableFor (registry : Registry) (glossary : Glossary) (text : String) : List FieldRow :=
  match registry.reference text with
  | .registered name => (registry.table? glossary name "" 1 []).getD []
  | .string => [stringRow]
  | .none => []

end Registry

end EndpointDocs
