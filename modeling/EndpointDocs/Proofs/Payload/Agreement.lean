import EndpointDocs.Payload.Example
import EndpointDocs.Proofs.Payload.Chain
import Mathlib.Data.List.Forall2

/-!
The field table and the example of a text describe one payload: they refer to the same word, and
where it names a type, the keys of the example in pre-order are the fields of the table's rows, on
the same levels. Both are compared with the walk through the type, one chain of fields at a time.
-/
namespace EndpointDocs

namespace Json

/-- A key of a document, the number of objects around it, and the value under it. -/
structure Visit where
  key : String
  level : Nat
  value : Value

mutual

/-- The keys of a document in pre-order. Objects are entered directly or through lists of one
element. -/
def Value.visits (level : Nat) : Value → List Visit
  | .object members => memberVisits level members
  | .array [item] => item.visits level
  | _ => []

/-- The keys of members and of what stands below them. -/
def memberVisits (level : Nat) : List (String × Value) → List Visit
  | [] => []
  | (key, value) :: rest =>
    ⟨key, level, value⟩ :: (value.visits (level + 1) ++ memberVisits level rest)

end

/-- Whether a value is a list of one element. -/
def Value.IsSingleton (value : Value) : Prop :=
  ∃ item, value = .array [item]

theorem memberVisits_map {α : Type} (level : Nat) (items : List α) (key : α → String)
    (value : α → Value) :
    memberVisits level (items.map fun item => (key item, value item)) =
      items.flatMap fun item =>
        ⟨key item, level, value item⟩ :: (value item).visits (level + 1) := by
  induction items with
  | nil => simp [memberVisits]
  | cons item rest ih => simp [memberVisits, ih]

end Json

namespace Registry

open EndpointDocs.Json (Value Visit)

/-- No type has two fields of one name. -/
def DistinctFields (registry : Registry) : Prop :=
  ∀ type ∈ registry.types.entries, (type.2.map Field.name).Nodup

instance (registry : Registry) : Decidable registry.DistinctFields :=
  inferInstanceAs (Decidable (∀ type ∈ registry.types.entries, (type.2.map Field.name).Nodup))

theorem DistinctFields.fields {registry : Registry} (distinct : registry.DistinctFields)
    (name : String) : (((registry.fields? name).getD []).map Field.name).Nodup := by
  unfold fields? OrderedMap.get?
  cases found : registry.types.entries.find? (fun entry => entry.1 = name) with
  | none => simp
  | some entry => simpa using distinct entry (List.mem_of_find?_eq_some found)

/-- The example of one field, where the types in `enterable` may be entered. -/
def memberValue (registry : Registry) (enterable : List String) (field : Field) : Value :=
  let type := FieldType.analyze registry field.declared
  let value :=
    if type.base ∈ enterable then
      registry.exampleOf ((registry.fields? type.base).getD []) (enterable.erase type.base)
    else if type.isRegistered then .object []
    else zeroOf type.base
  if type.isSlice then .array [value] else value

/-- Members of different names are put one behind the other. -/
theorem foldl_putMember (value : Field → Value) (fields : List Field)
    (members : List (String × Value)) (distinct : (fields.map Field.name).Nodup)
    (fresh : ∀ field ∈ fields, field.name ∉ members.map (·.1)) :
    fields.foldl (fun members field => putMember members field.name (value field)) members =
      members ++ fields.map fun field => (field.name, value field) := by
  induction fields generalizing members with
  | nil => simp
  | cons field rest ih =>
    obtain ⟨absent, restDistinct⟩ := List.nodup_cons.1 distinct
    have put : putMember members field.name (value field) =
        members ++ [(field.name, value field)] :=
      OrderedMap.putEntry_of_absent (fresh field List.mem_cons_self)
    have restFresh : ∀ other ∈ rest,
        other.name ∉ (members ++ [(field.name, value field)]).map (·.1) := by
      intro other listed
      have outside := fresh other (List.mem_cons_of_mem _ listed)
      have different : other.name ≠ field.name := fun same =>
        absent (same ▸ List.mem_map_of_mem listed)
      simpa [different] using outside
    rw [List.foldl_cons, put, ih _ restDistinct restFresh]
    simp

/-- With distinct names no member replaces another: there is one for each field, in order. -/
theorem exampleOf_eq_object (registry : Registry) (fields : List Field) (enterable : List String)
    (distinct : (fields.map Field.name).Nodup) :
    registry.exampleOf fields enterable =
      .object (fields.map fun field => (field.name, registry.memberValue enterable field)) := by
  have members := foldl_putMember (registry.memberValue enterable) fields [] distinct (by simp)
  rw [List.nil_append] at members
  rw [exampleOf, ← members]
  simp only [memberValue, dite_eq_ite]

theorem visits_zeroOf (level : Nat) (base : String) : (zeroOf base).visits level = [] := by
  unfold zeroOf
  repeat' split
  all_goals simp [Value.visits]

theorem zeroOf_not_singleton (base : String) : ¬ (zeroOf base).IsSingleton := by
  unfold zeroOf
  repeat' split
  all_goals simp [Value.IsSingleton]

/-- What one key of an example says about the field of a chain: its name, its level, and whether
its declared type is a slice. -/
structure Shows (registry : Registry) (visit : Visit) (chain : FieldChain) : Prop where
  key : visit.key = chain.field.name
  level : visit.level = chain.above.length + 1
  slice : visit.value.IsSingleton ↔ (chain.type registry).isSlice = true

/-- Only a field that is a slice has a list of one element in the example. -/
theorem memberValue_singleton_iff (registry : Registry) (distinct : registry.DistinctFields)
    (enterable : List String) (field : Field) :
    (registry.memberValue enterable field).IsSingleton ↔
      (FieldType.analyze registry field.declared).isSlice = true := by
  simp only [memberValue]
  cases (FieldType.analyze registry field.declared).isSlice with
  | true => simp [Value.IsSingleton]
  | false =>
    simp only [Bool.false_eq_true, if_false, iff_false]
    split
    · rw [exampleOf_eq_object _ _ _ (distinct.fields _)]
      simp [Value.IsSingleton]
    · split
      · simp [Value.IsSingleton]
      · exact zeroOf_not_singleton _

/-- The keys below a field are those of the type it enters: a type that is not entered has none. -/
theorem visits_memberValue (registry : Registry) (level : Nat) (enterable : List String)
    (field : Field) :
    (registry.memberValue enterable field).visits level =
      let base := (FieldType.analyze registry field.declared).base
      if base ∈ enterable then
        (registry.exampleOf ((registry.fields? base).getD []) (enterable.erase base)).visits level
      else [] := by
  have unwrapped : ∀ (isSlice : Bool) (value : Value),
      (if isSlice then Value.array [value] else value).visits level = value.visits level := by
    intro isSlice value
    cases isSlice <;> simp [Value.visits]
  simp only [memberValue, unwrapped]
  split
  · rfl
  · split
    · simp [Value.visits, Json.memberVisits]
    · exact visits_zeroOf level _

/-- Key by key, the example for `fields` follows the walk through them. The induction is on the
walk; the invariant is that keys stand one level below the number of fields entered so far. -/
theorem visits_exampleOf (registry : Registry) (distinct : registry.DistinctFields)
    (fields above : List Field) (enterable : List String)
    (fieldsDistinct : (fields.map Field.name).Nodup) :
    List.Forall₂ registry.Shows
      ((registry.exampleOf fields enterable).visits (above.length + 1))
      (registry.chainsOf fields above enterable) := by
  fun_induction chainsOf registry fields above enterable with
  | case1 fields above enterable ih =>
    rw [exampleOf_eq_object _ _ _ fieldsDistinct, Value.visits, Json.memberVisits_map]
    apply List.rel_flatMap (List.forall₂_same.2 fun _ _ => rfl : List.Forall₂ Eq fields fields)
    rintro field _ rfl
    refine List.Forall₂.cons ⟨rfl, rfl, registry.memberValue_singleton_iff distinct _ _⟩ ?_
    rw [visits_memberValue]
    by_cases entered : (FieldType.analyze registry field.declared).base ∈ enterable
    · have below := ih field entered (distinct.fields _)
      rw [List.length_append, List.length_singleton] at below
      simpa only [if_pos entered, dif_pos entered] using below
    · simp only [if_neg entered, dif_neg entered, List.Forall₂.nil]

/-- Whether a word says what a payload is: it names a registered type or, in any case, a string. -/
def isTelling (registry : Registry) (word : String) : Bool :=
  registry.has word || Text.lower word = "string"

/-- The first telling word decides what a text refers to. -/
theorem referenceIn_eq_find? (registry : Registry) (words : List String) :
    registry.referenceIn words =
      match words.find? registry.isTelling with
      | some word => if registry.has word then .registered word else .string
      | none => .none := by
  induction words with
  | nil => rfl
  | cons word rest ih =>
    rw [referenceIn]
    by_cases registered : registry.has word = true
    · simp [isTelling, registered]
    · by_cases isString : Text.lower word = "string"
      · simp [isTelling, registered, isString]
      · have silent : registry.isTelling word = false := by
          simp [isTelling, registered, isString]
        rw [if_neg registered, if_neg isString, ih, List.find?_cons_of_neg (by simp [silent])]

/-- The table and the example of a text are about its first telling word. If that names a type, the
rows and the keys of the example are the same walk through the type: the `i`-th key is the name of
the field of the `i`-th row, with which the row's path ends, its level is the row's depth, and its
value is a list of one element exactly when the declared type of the row is a slice. -/
theorem table_and_example_same_payload (registry : Registry) (distinct : registry.DistinctFields)
    (glossary : Glossary) (text : String) :
    (∃ name value,
      (Text.words text).find? registry.isTelling = some name ∧ registry.has name = true ∧
      registry.example? name [] = some value ∧ registry.exampleFor text = value.pretty ∧
      registry.table? glossary name "" 1 [] = some (registry.tableFor glossary text) ∧
      registry.tableFor glossary text =
        (registry.chains name []).map (FieldChain.row registry glossary "" 1) ∧
      List.Forall₂ (fun visit chain => visit.key = chain.field.name ∧
          (FieldChain.row registry glossary "" 1 chain).path =
            FieldChain.qualifierOf registry "" chain.above ++ visit.key ∧
          (visit.level : Int) = (FieldChain.row registry glossary "" 1 chain).depth ∧
          (visit.value.IsSingleton ↔ (chain.type registry).isSlice = true))
        (value.visits 1) (registry.chains name [])) ∨
    (∃ word,
      (Text.words text).find? registry.isTelling = some word ∧ registry.has word = false ∧
      registry.tableFor glossary text = [stringRow] ∧
      registry.exampleFor text = "\"string\"") ∨
    ((Text.words text).find? registry.isTelling = none ∧
      registry.tableFor glossary text = [] ∧ registry.exampleFor text = Text.trim text) := by
  have reference := registry.referenceIn_eq_find? (Text.words text)
  change registry.reference text = _ at reference
  cases first : (Text.words text).find? registry.isTelling with
  | none =>
    simp only [first] at reference
    exact .inr (.inr ⟨rfl, by simp [tableFor, reference], by simp [exampleFor, reference]⟩)
  | some word =>
    simp only [first] at reference
    cases registered : registry.has word with
    | false =>
      simp only [registered, Bool.false_eq_true, if_false] at reference
      refine .inr (.inl ⟨word, rfl, registered, by simp [tableFor, reference], ?_⟩)
      simp only [exampleFor, reference]
      rfl
    | true =>
      simp only [registered, if_true] at reference
      obtain ⟨fields, found⟩ := Option.isSome_iff_exists.1 registered
      have table := registry.table?_eq_map_chains glossary word "" 1 [] registered
      have rows : registry.tableFor glossary text =
          (registry.chains word []).map (FieldChain.row registry glossary "" 1) := by
        simp only [tableFor, reference, table, Option.getD_some]
      -- Both are walks over the chains of fields: the table by definition, the example by its keys.
      have keys := visits_exampleOf registry distinct ((registry.fields? word).getD []) []
        (registry.namesOutside [word]) (distinct.fields word)
      have built : registry.example? word [] = some (registry.exampleOf
          ((registry.fields? word).getD []) (registry.namesOutside [word])) := by
        simp [example?, fields?, found]
      refine .inl ⟨word, _, rfl, registered, built, ?_, by rw [rows, table], rows, ?_⟩
      · simp only [exampleFor, reference, built, Option.map_some, Option.getD_some]
      · apply List.Forall₂.imp _ keys
        intro visit chain shows
        have level := shows.level
        refine ⟨shows.key, ?_, ?_, shows.slice⟩
        · rw [shows.key]
          rfl
        · simp only [FieldChain.row, FieldRow.ofField]
          omega

/-- Two types that refer to each other and to themselves, through slices and optional types. -/
def circularTypes : Registry :=
  (Registry.empty.register "Node"
    [⟨"id", "int"⟩, ⟨"next", "Optional[Node]"⟩, ⟨"leaves", "list[Leaf]"⟩]).register "Leaf"
    [⟨"owner", "Node | None"⟩, ⟨"tags", "[]str"⟩]

theorem circularTypes_same_payload :
    circularTypes.DistinctFields ∧ ∃ value, circularTypes.example? "Node" [] = some value ∧
      (value.visits 1).length = (circularTypes.tableFor Glossary.empty "any Node").length := by
  have distinct : circularTypes.DistinctFields := by decide
  have first : (Text.words "any Node").find? circularTypes.isTelling = some "Node" := by decide
  rcases table_and_example_same_payload circularTypes distinct Glossary.empty "any Node" with
    ⟨name, value, found, _, built, _, _, rows, keys⟩ | ⟨word, found, unregistered, _⟩ | ⟨found, _⟩
  · obtain rfl : name = "Node" := Option.some.inj (found.symm.trans first)
    refine ⟨distinct, value, built, ?_⟩
    rw [keys.length_eq, rows, List.length_map]
  · obtain rfl : word = "Node" := Option.some.inj (found.symm.trans first)
    exact absurd unregistered (by decide)
  · exact absurd (found.symm.trans first) (by simp)

end Registry

end EndpointDocs
