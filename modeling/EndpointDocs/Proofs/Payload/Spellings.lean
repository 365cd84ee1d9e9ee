import EndpointDocs.Proofs.Payload.Written

/-!
The two spellings of an optional type. A type that is wrapped as optional and the same type with
`None` as an alternative are read alike exactly if the type has no bar, or is a bare name that is
optional already. A bar inside the brackets of a collection splits the second spelling there, and an
alternative behind a collection hides the collection in the first.
-/
namespace EndpointDocs.FieldType

/-- A text, with `None` as an alternative behind it if it is optional. -/
def optionally (optional : Bool) (text : List Char) : List Char :=
  if optional then text ++ orNoneText.toList else text

/-- A type that is no alternative: a name, or a collection of a type that may be optional. -/
inductive Required where
  | name (dotted : DottedName)
  | collection (wrapper : Wrapper .collection) (element : Required) (optional : Bool)

def Required.text : Required → List Char
  | .name dotted => dotted.text
  | .collection wrapper element optional => wrapper.on (optionally optional element.text)

/-- A declared type, with or without `None` as an alternative. -/
structure TypeExpr where
  required : Required
  optional : Bool

def TypeExpr.text (type : TypeExpr) : List Char :=
  optionally type.optional type.required.text

theorem IsSolid.optionally {text : List Char} (solid : IsSolid text) (optional : Bool) :
    IsSolid (FieldType.optionally optional text) := by
  cases optional with
  | false => exact solid
  | true => exact solid.orNone

theorem Required.isSolid (type : Required) : IsSolid type.text := by
  induction type with
  | name dotted => exact dotted.isSolid
  | collection wrapper element optional ih =>
    exact wrapper.isSolid_on (ih.optionally optional).oneLine

theorem TypeExpr.isSolid (type : TypeExpr) : IsSolid type.text :=
  type.required.isSolid.optionally type.optional

/-- Whether two declared types say the same does not depend on what is registered. -/
theorem analyze_eq_iff (registry : Registry) (first second : String) :
    analyze registry first = analyze registry second ↔
      baseOf first.toList = baseOf second.toList := by
  unfold analyze
  generalize baseOf first.toList = firstRead, baseOf second.toList = secondRead
  constructor
  · intro same
    obtain ⟨sameSlice, _, sameBase⟩ := FieldType.mk.inj same
    exact Prod.ext sameSlice (String.ofList_inj.1 sameBase)
  · rintro rfl
    rfl

/-- What a type says is decided by what is left without its optional part. -/
theorem baseOf_congr {first second : List Char}
    (same : stripOptional first = stripOptional second) : baseOf first = baseOf second := by
  simp only [baseOf, same]

theorem baseOf_of_element {text left inner : List Char} (stripped : stripOptional text = left)
    (found : element? left = some inner) : (baseOf text).1 = true := by
  simp [baseOf, stripped, found]

theorem baseOf_of_no_element {text left : List Char} (stripped : stripOptional text = left)
    (none : element? left = none) :
    baseOf text = (false, Text.afterLast '.' (stripOptional left)) := by
  simp [baseOf, stripped, none]

def optionalWrapper : Wrapper .optional where
  qualifier := []
  name := "Optional"
  qualified := rfl
  listed := List.mem_singleton_self _

theorem toList_wrapped (text : List Char) :
    ("Optional[" ++ String.ofList text ++ "]").toList = optionalWrapper.on text := by
  have head : optionalWrapper.head = "Optional".toList := by
    unfold Wrapper.head qualify
    exact if_pos rfl
  have opened : "Optional[" = "Optional" ++ "[" := by decide
  rw [Wrapper.on, head, opened]
  simp only [String.toList_append, String.toList_ofList, List.append_assoc]
  congr 1

theorem toList_orNone (text : List Char) :
    (String.ofList text ++ " | None").toList = text ++ orNoneText.toList := by
  rw [String.toList_append, String.toList_ofList]
  rfl

/-- Two more alternatives of `None` are removed like one. -/
theorem stripOptional_orNone_orNone {text : List Char} (solid : IsSolid text)
    (single : '|' ∉ text) :
    stripOptional (text ++ orNoneText.toList ++ orNoneText.toList) = text := by
  apply stripOptional_of_one solid.orNone.orNone.trimmed (inside?_orNone _ _)
  rw [alternatives_orNone, alternatives_orNone]
  exact alternatives_of_trimmed single solid.trimmed solid.notNone

theorem baseOf_optional_name (dotted : DottedName) :
    baseOf (optionalWrapper.on (dotted.text ++ orNoneText.toList)) =
      baseOf (dotted.text ++ orNoneText.toList ++ orNoneText.toList) := by
  have noBar : '|' ∉ dotted.text := dotted.not_mem_text (by decide)
  have removed := stripOptional_orNone_orNone dotted.isSolid noBar
  calc baseOf (optionalWrapper.on (dotted.text ++ orNoneText.toList))
      = (false, dotted.base) :=
        baseOf_written dotted .orNone .absent (.wrapped optionalWrapper)
          (fun isTuple => by cases isTuple) (fun alternative => by cases alternative)
    _ = baseOf dotted.text :=
        (baseOf_written dotted .absent .absent .absent
          (fun isTuple => by cases isTuple) (fun alternative => by cases alternative)).symm
    _ = baseOf (dotted.text ++ orNoneText.toList ++ orNoneText.toList) :=
        baseOf_congr (dotted.stripOptional_text.trans removed.symm)

section Collection

variable {text : List Char} (wrapper : Wrapper .collection)

/-- With an alternative behind it a collection is no slice. -/
theorem element?_collection_orNone (rest : List Char) :
    element? (wrapper.head ++ '[' :: rest ++ orNoneText.toList) = none := by
  have unclosed : inside? collections (wrapper.head ++ '[' :: rest ++ orNoneText.toList) = none :=
    inside?_orNone collections _
  rw [List.append_assoc, List.cons_append] at unclosed ⊢
  rw [element?_head, unclosed, tupleElement?_head_of_ne wrapper (by decide)]
  rfl

/-- Where several alternatives count, one of `None` behind them is not removed. -/
theorem stripOptional_orNone_of_many (solid : IsSolid text)
    (many : 1 < (alternatives text).length) :
    stripOptional (text ++ orNoneText.toList) = text ++ orNoneText.toList := by
  apply stripOptional_of_many solid.orNone.trimmed (inside?_orNone _ _)
  rwa [alternatives_orNone]

/-- So a collection with several alternatives is read as one name. -/
theorem baseOf_orNone_of_many (rest : List Char) (solid : IsSolid (wrapper.head ++ '[' :: rest))
    (many : 1 < (alternatives (wrapper.head ++ '[' :: rest)).length) :
    baseOf (wrapper.head ++ '[' :: rest ++ orNoneText.toList) =
      (false, Text.afterLast '.' (wrapper.head ++ '[' :: rest ++ orNoneText.toList)) := by
  have stays := stripOptional_orNone_of_many solid many
  have noSlice := baseOf_of_no_element stays (element?_collection_orNone wrapper rest)
  rwa [stays] at noSlice

/-- A bar inside the brackets: only the wrapped spelling is a slice. -/
theorem baseOf_collection_ne (nonempty : text ≠ []) (oneLine : '\n' ∉ text)
    (several : '|' ∈ text) :
    baseOf (optionalWrapper.on (wrapper.on text)) ≠
      baseOf (wrapper.on text ++ orNoneText.toList) := by
  have solid := wrapper.isSolid_on oneLine
  have isSlice := baseOf_of_element (stripOptional_on optionalWrapper solid)
    (element?_collection wrapper nonempty oneLine)
  have noSlice := baseOf_orNone_of_many wrapper (text ++ [']']) solid
    (wrapper.alternatives_on several)
  intro same
  rw [same, Wrapper.on, noSlice] at isSlice
  cases isSlice

/-- An alternative behind the brackets: the wrapped spelling is no slice, and the other is one or
keeps one alternative more. -/
theorem baseOf_optional_collection_ne (nonempty : text ≠ []) (oneLine : '\n' ∉ text) :
    baseOf (optionalWrapper.on (wrapper.on text ++ orNoneText.toList)) ≠
      baseOf (wrapper.on text ++ orNoneText.toList ++ orNoneText.toList) := by
  have solid := wrapper.isSolid_on oneLine
  have noSlice := baseOf_of_no_element (stripOptional_on optionalWrapper solid.orNone)
    (element?_collection_orNone wrapper (text ++ [']']))
  intro same
  by_cases several : '|' ∈ text
  · have many := wrapper.alternatives_on several
    have stays := stripOptional_orNone_of_many solid many
    have joined : wrapper.head ++ '[' :: (text ++ [']'] ++ orNoneText.toList) =
        wrapper.on text ++ orNoneText.toList := by
      simp only [Wrapper.on, List.append_assoc, List.cons_append]
    have longer := baseOf_orNone_of_many wrapper (text ++ [']'] ++ orNoneText.toList)
    rw [joined, alternatives_orNone] at longer
    have undotted : '.' ∉ orNoneText.toList := by decide
    rw [noSlice, stays, longer solid.orNone many,
      Text.afterLast_append (wrapper.on text ++ orNoneText.toList) undotted] at same
    have nothing : orNoneText.toList = [] := List.self_eq_append_right.1 (Prod.mk.inj same).2
    exact absurd nothing (by decide)
  · have removed := stripOptional_orNone_orNone solid (wrapper.bar_not_mem_on several)
    have isSlice := baseOf_of_element removed (element?_collection wrapper nonempty oneLine)
    rw [← same, noSlice] at isSlice
    cases isSlice

end Collection

/-- The two spellings of an optional type are read alike exactly if the type has no bar at all, or
is a name. -/
theorem optional_spellings_agree_iff (registry : Registry) (type : TypeExpr) :
    analyze registry ("Optional[" ++ String.ofList type.text ++ "]") =
        analyze registry (String.ofList type.text ++ " | None") ↔
      '|' ∉ type.text ∨ ∃ dotted, type.required = .name dotted := by
  rw [analyze_eq_iff, toList_wrapped, toList_orNone]
  constructor
  · intro same
    obtain ⟨required, optional⟩ := type
    cases required with
    | name dotted => exact .inr ⟨dotted, rfl⟩
    | collection wrapper element inside =>
      have solid := element.isSolid.optionally inside
      left
      intro bar
      cases optional with
      | true => exact baseOf_optional_collection_ne wrapper solid.nonempty solid.oneLine same
      | false =>
        by_cases several : '|' ∈ optionally inside element.text
        · exact baseOf_collection_ne wrapper solid.nonempty solid.oneLine several same
        · exact wrapper.bar_not_mem_on several bar
  · rintro (single | ⟨dotted, isName⟩)
    · exact baseOf_congr ((stripOptional_on optionalWrapper type.isSolid).trans
        (stripOptional_orNone type.isSolid single).symm)
    · obtain ⟨required, optional⟩ := type
      obtain rfl : required = .name dotted := isName
      cases optional with
      | true => exact baseOf_optional_name dotted
      | false =>
        have noBar : '|' ∉ dotted.text := dotted.not_mem_text (by decide)
        exact baseOf_congr ((stripOptional_on optionalWrapper dotted.isSolid).trans
          (stripOptional_orNone dotted.isSolid noBar).symm)

def listOfOptional : TypeExpr where
  required := .collection ⟨[], "list", rfl, by decide⟩
    (.name { geoName with qualifier := [], qualified := rfl }) true
  optional := false

/-- The bar inside the brackets splits the second spelling of an optional list, so that neither the
list nor the type inside is found. -/
theorem optional_spellings_differ :
    String.ofList listOfOptional.text = "list[Geo | None]" ∧
      analyze (Registry.empty.register "Geo" []) "Optional[list[Geo | None]]" =
        ⟨true, true, "Geo"⟩ ∧
      analyze (Registry.empty.register "Geo" []) "list[Geo | None] | None" =
        ⟨false, false, "list[Geo | None] | None"⟩ := by
  refine ⟨?_, ?_, ?_⟩ <;> decide

end EndpointDocs.FieldType
