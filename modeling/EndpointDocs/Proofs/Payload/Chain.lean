import EndpointDocs.Payload.Rows

/-!
The fields met in a payload type, each with the fields that were entered on the way to it. The walk
reads the registry only: depth, path and row of a field are functions of its chain, so that a field
table is the walk with every chain written as a row.
-/
namespace EndpointDocs

/-- A field and the fields entered on the way to it, outermost first. -/
structure FieldChain where
  above : List Field
  field : Field
  deriving DecidableEq, Repr

namespace FieldChain

/-- What stands before the names of fields below `above`: each entered type with a point. -/
def qualifierOf (registry : Registry) (qualifier : String) (above : List Field) : String :=
  above.foldl (fun qualifier field =>
    qualifier ++ (FieldType.analyze registry field.declared).base ++ ".") qualifier

def type (registry : Registry) (chain : FieldChain) : FieldType :=
  FieldType.analyze registry chain.field.declared

/-- The row of a chain in a table whose outermost rows have `qualifier` and `depth`. -/
def row (registry : Registry) (glossary : Glossary) (qualifier : String) (depth : Int)
    (chain : FieldChain) : FieldRow :=
  FieldRow.ofField glossary (qualifierOf registry qualifier chain.above)
    (depth + chain.above.length) chain.field (chain.type registry)

theorem qualifierOf_concat (registry : Registry) (qualifier : String) (above : List Field)
    (field : Field) :
    qualifierOf registry qualifier (above ++ [field]) =
      qualifierOf registry qualifier above ++ (FieldType.analyze registry field.declared).base ++
        "." := by
  simp [qualifierOf]

end FieldChain

namespace Registry

/-- The chains of `fields` and of the types below them, of which those in `enterable` may be
entered; a chain comes right before its extensions. -/
def chainsOf (registry : Registry) (fields above : List Field) (enterable : List String) :
    List FieldChain :=
  fields.flatMap fun field =>
    let type := FieldType.analyze registry field.declared
    ⟨above, field⟩ ::
      if _entered : type.base ∈ enterable then
        registry.chainsOf ((registry.fields? type.base).getD []) (above ++ [field])
          (enterable.erase type.base)
      else []
termination_by enterable.length
decreasing_by
  exact length_erase_lt _entered

/-- The chains of a type, when the types of `expanding` are not to be entered. -/
def chains (registry : Registry) (name : String) (expanding : List String) : List FieldChain :=
  registry.chainsOf ((registry.fields? name).getD []) [] (registry.namesOutside (name :: expanding))

/-- The induction follows the entered types; `above` grows by the field that was entered, and
depth and qualifier grow with it. -/
theorem rowsOf_eq_map_chainsOf (registry : Registry) (glossary : Glossary) (qualifier : String)
    (depth : Int) (fields above : List Field) (enterable : List String) :
    registry.rowsOf glossary fields (FieldChain.qualifierOf registry qualifier above)
        (depth + above.length) enterable =
      (registry.chainsOf fields above enterable).map
        (FieldChain.row registry glossary qualifier depth) := by
  fun_induction chainsOf registry fields above enterable with
  | case1 fields above enterable ih =>
    rw [rowsOf, List.map_flatMap]
    congr 1
    funext field
    simp only [List.map_cons]
    congr 1
    by_cases entered : (FieldType.analyze registry field.declared).base ∈ enterable
    · rw [dif_pos entered, dif_pos entered, ← ih field entered, FieldChain.qualifierOf_concat]
      congr 1
      simp only [List.length_append, List.length_cons, List.length_nil]
      omega
    · rw [dif_neg entered, dif_neg entered, List.map_nil]

/-- The field table of a type is its walk, row by row. -/
theorem table?_eq_map_chains (registry : Registry) (glossary : Glossary) (name qualifier : String)
    (depth : Int) (expanding : List String) (registered : registry.has name = true) :
    registry.table? glossary name qualifier depth expanding =
      some ((registry.chains name expanding).map
        (FieldChain.row registry glossary qualifier depth)) := by
  obtain ⟨fields, found⟩ : ∃ fields, registry.fields? name = some fields :=
    Option.isSome_iff_exists.1 registered
  have rows := rowsOf_eq_map_chainsOf registry glossary qualifier depth fields []
    (registry.namesOutside (name :: expanding))
  simp only [FieldChain.qualifierOf, List.foldl_nil, List.length_nil, Int.natCast_zero,
    Int.add_zero] at rows
  simp only [table?, chains, found, Option.map_some, Option.getD_some, rows]

end Registry

end EndpointDocs
