import EndpointDocs.Html.CodeBlock
import EndpointDocs.Proofs.Json.RoundTrip
import EndpointDocs.Proofs.Payload.Agreement

/-!
The example of a type is a JSON document: in ASCII, and read back as the value that was built, with
a key for each field of each entered type, in the order in which the fields are declared. So a page
shows it as JSON.
-/
namespace EndpointDocs

theorem CodeBlock.renderExample_object (members : List (String × Json.Value)) :
    renderExample (Json.Value.object members).pretty =
      render (Json.Value.object members).pretty (some "json") := by
  have opened : ∃ rest, Json.write .indented 0 (.object members) = '\x7b' :: rest := by
    rcases members with - | ⟨⟨name, value⟩, others⟩
    · exact ⟨_, by rw [Json.write]⟩
    · exact ⟨_, by rw [Json.write]; rfl⟩
  obtain ⟨rest, written⟩ := opened
  have start : Text.isBlank '\x7b' = false := by decide
  have looks : looksLikeJson (Json.Value.object members).pretty = true := by
    rw [looksLikeJson, Json.Value.pretty, String.toList_ofList, written,
      List.dropWhile_cons_of_neg (by simp [start])]
    rfl
  rw [renderExample, looks]
  rfl

namespace Registry

open EndpointDocs.Json (Value)

theorem isUnambiguous_zeroOf (base : String) : (zeroOf base).IsUnambiguous := by
  unfold zeroOf
  repeat' split
  all_goals simp [Value.IsUnambiguous]

/-- With distinct field names no object of an example has two members of one name. The induction is
on the types that may be entered. -/
theorem isUnambiguous_exampleOf (registry : Registry) (distinct : registry.DistinctFields)
    (fields : List Field) (enterable : List String)
    (fieldsDistinct : (fields.map Field.name).Nodup) :
    (registry.exampleOf fields enterable).IsUnambiguous := by
  induction fields, enterable using exampleOf.induct registry with
  | case1 fields enterable ih =>
    have value : ∀ field, (registry.memberValue enterable field).IsUnambiguous := by
      intro field
      have wrapped : ∀ (isSlice : Bool) (value : Value), value.IsUnambiguous →
          (if isSlice then Value.array [value] else value).IsUnambiguous := by
        intro isSlice value unambiguous
        cases isSlice <;> simpa [Value.IsUnambiguous, Json.itemsUnambiguous] using unambiguous
      apply wrapped
      split
      case isTrue entered => exact ih field entered (distinct.fields _)
      case isFalse =>
        split
        · simp [Value.IsUnambiguous, Json.membersUnambiguous]
        · simp only [isUnambiguous_zeroOf]
    rw [exampleOf_eq_object _ _ _ fieldsDistinct, Value.IsUnambiguous, Json.membersUnambiguous_iff]
    refine ⟨by simpa [Function.comp_def] using fieldsDistinct, ?_⟩
    intro member listed
    obtain ⟨field, -, rfl⟩ := List.mem_map.1 listed
    simp only [value]

/-- The first telling word is what a text refers to. -/
theorem reference_of_words (registry : Registry) {text name : String} {earlier later : List String}
    (words : Text.words text = earlier ++ name :: later)
    (silent : ∀ word ∈ earlier, registry.isTelling word = false)
    (registered : registry.has name = true) : registry.reference text = .registered name := by
  have first : (earlier ++ name :: later).find? registry.isTelling = some name := by
    rw [List.find?_append, List.find?_eq_none.2 fun word listed => by simp [silent word listed],
      List.find?_cons_of_pos (by simp [isTelling, registered])]
    rfl
  rw [reference, words, referenceIn_eq_find?, first]
  simp [registered]

/-- The example of a text whose first telling word names a type is a document of ASCII characters
that is read back as the type's example, member by member; it has the fields of each entered type as
its keys, in the order of their declaration and on their levels; and it is shown as JSON. -/
theorem read_exampleFor (registry : Registry) (distinct : registry.DistinctFields)
    (text name : String) (earlier later : List String)
    (words : Text.words text = earlier ++ name :: later)
    (silent : ∀ word ∈ earlier, registry.has word = false ∧ Text.lower word ≠ "string")
    (registered : registry.has name = true) :
    ∃ value, registry.example? name [] = some value ∧
      Json.IsAscii (registry.exampleFor text).toList ∧
      Json.read (registry.exampleFor text) = some value ∧
      (value.visits 1).map (fun visit => (visit.level, visit.key)) =
        (registry.chains name []).map (fun chain => (chain.above.length + 1, chain.field.name)) ∧
      CodeBlock.renderExample (registry.exampleFor text) =
        CodeBlock.render (registry.exampleFor text) (some "json") := by
  obtain ⟨fields, found⟩ : ∃ fields, registry.fields? name = some fields :=
    Option.isSome_iff_exists.1 registered
  have fieldsDistinct : (fields.map Field.name).Nodup := by
    simpa [found] using distinct.fields name
  have refers := registry.reference_of_words words
    (fun word listed => by simp [isTelling, silent word listed]) registered
  have built : registry.example? name [] =
      some (registry.exampleOf fields (registry.namesOutside [name])) := by
    simp [example?, found]
  have document : registry.exampleFor text =
      (registry.exampleOf fields (registry.namesOutside [name])).pretty := by
    simp only [exampleFor, refers, built, Option.map_some, Option.getD_some]
  rw [document]
  refine ⟨_, built, ?_, ?_, ?_, ?_⟩
  · rw [Value.pretty, String.toList_ofList]
    exact Json.isAscii_write Json.Layout.isBlank_indented 0 _
  · exact Json.read_write Json.Layout.isBlank_indented 0 _
      (registry.isUnambiguous_exampleOf distinct fields _ fieldsDistinct)
  -- The members are visited in the order of the chains, each one level below its field.
  · have walk := registry.visits_exampleOf distinct fields [] (registry.namesOutside [name])
      fieldsDistinct
    rw [chains, found, Option.getD_some, ← List.forall₂_eq_eq_eq, List.forall₂_map_left_iff,
      List.forall₂_map_right_iff]
    refine List.Forall₂.imp (fun visit chain shows => ?_) walk
    rw [shows.key, shows.level]
  · rw [exampleOf_eq_object _ _ _ fieldsDistinct]
    exact CodeBlock.renderExample_object _

/-- A type that enters itself, whose fields have names with quotes, control characters and
characters of two UTF-16 units. -/
def hostileNames : Registry :=
  Registry.empty.register "Node"
    [⟨"say \"hi\"", "str"⟩, ⟨"back\\slash\n\x01\x7f", "float"⟩, ⟨"😀é", "list[Node]"⟩,
      ⟨"", "Unknown"⟩]

theorem read_exampleFor_hostileNames :
    hostileNames.DistinctFields ∧ Text.words "any Node" = ["any"] ++ "Node" :: [] ∧
      ∃ value, hostileNames.example? "Node" [] = some value ∧
        Json.read (hostileNames.exampleFor "any Node") = some value := by
  have distinct : hostileNames.DistinctFields := by decide
  have words : Text.words "any Node" = ["any"] ++ "Node" :: [] := by decide
  obtain ⟨value, built, -, read, -⟩ := read_exampleFor hostileNames distinct "any Node" "Node"
    ["any"] [] words (by decide) (by decide)
  exact ⟨distinct, words, value, built, read⟩

end Registry

end EndpointDocs
