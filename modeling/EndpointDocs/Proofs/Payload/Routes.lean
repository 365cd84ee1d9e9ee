import EndpointDocs.Proofs.Payload.Agreement
import Mathlib.Data.List.Nodup

/-!
The field table of a type as an enumeration. A route leads down from a type through declared fields;
below each of its fields but the last it enters the base type of that field, which is registered,
not excluded and not yet on the route. The rows of a table are the routes, each once and in
lexicographic order of the positions of their fields, so that a row comes right before the rows
below it. How many types are registered bounds how deep the rows are.
-/
namespace EndpointDocs

/-- A declared field and its position among the fields of its type. -/
structure PlacedField where
  position : Nat
  field : Field
  deriving DecidableEq, Repr

def PlacedField.base (registry : Registry) (placed : PlacedField) : String :=
  (FieldType.analyze registry placed.field.declared).base

/-- The fields on the way down to a field, outermost first, and that field. -/
structure Route where
  above : List PlacedField
  last : PlacedField
  deriving DecidableEq, Repr

namespace Route

def fields (route : Route) : List PlacedField :=
  route.above ++ [route.last]

/-- The types whose fields are on a route that starts at the type `name`. -/
def types (registry : Registry) (name : String) (route : Route) : List String :=
  name :: route.above.map (PlacedField.base registry)

/-- The route that first enters the type of `placed`. -/
def below (placed : PlacedField) (route : Route) : Route :=
  ⟨placed :: route.above, route.last⟩

/-- A route is its last field or leads into the type of its first one. -/
@[elab_as_elim]
theorem downward {motive : Route → Prop} (last : ∀ placed, motive ⟨[], placed⟩)
    (below : ∀ placed rest, motive rest → motive (below placed rest)) (route : Route) :
    motive route := by
  obtain ⟨above, final⟩ := route
  induction above with
  | nil => exact last final
  | cons placed above ih => exact below placed ⟨above, final⟩ ih

theorem below_inj {placed other : PlacedField} {route rest : Route}
    (same : route.below placed = rest.below other) : placed = other ∧ route = rest := by
  obtain ⟨above, last⟩ := route
  obtain ⟨restAbove, restLast⟩ := rest
  simpa [below, and_assoc] using same

def positions (route : Route) : List Nat :=
  route.fields.map (·.position)

/-- Routes are compared by the positions of their fields; a route is before its extensions. -/
def Before (first second : Route) : Prop :=
  first.positions < second.positions

theorem Before.below {placed : PlacedField} {first second : Route} (before : first.Before second) :
    (first.below placed).Before (second.below placed) :=
  List.Lex.cons before

theorem last_before_below (placed : PlacedField) (rest : Route) :
    Before ⟨[], placed⟩ (rest.below placed) := by
  have extended : (rest.below placed).positions = placed.position :: rest.positions := rfl
  obtain ⟨first, tail, nonempty⟩ : ∃ first tail, rest.positions = first :: tail :=
    List.exists_cons_of_ne_nil (by simp [positions, fields])
  rw [Before, extended, nonempty]
  exact List.Lex.cons List.Lex.nil

/-- The name of the last field, after the names of the types that were entered. -/
def path (registry : Registry) (qualifier : String) (route : Route) : String :=
  qualifier ++ String.join (route.above.map fun placed => placed.base registry ++ ".") ++
    route.last.field.name

/-- The row of a route in a table whose outermost rows have `qualifier` and `depth`. -/
def row (registry : Registry) (glossary : Glossary) (qualifier : String) (depth : Int)
    (route : Route) : FieldRow :=
  let path := route.path registry qualifier
  let name := route.last.field.name
  let level := depth + route.fields.length - 1
  let type := FieldType.analyze registry route.last.field.declared
  { label := ⟨String.join (List.replicate level.toNat "&nbsp;&nbsp;&nbsp;&nbsp;") ++
      (Html.escape path).source⟩
    dataType := (if type.isSlice then "[]" else "") ++ type.base
    definition := if glossary.define path = "" then glossary.define name else glossary.define path
    optional := false
    path
    depth := level }

end Route

namespace Registry

/-- A field is declared by a type, at its position. -/
def Declares (registry : Registry) (name : String) (placed : PlacedField) : Prop :=
  ∃ fields, registry.fields? name = some fields ∧ fields[placed.position]? = some placed.field

/-- A route from the type `name`: each of its fields is declared by the type that was entered for
it, and every type but the first is registered, not in `expanding` and not further up. -/
structure IsRoute (registry : Registry) (name : String) (expanding : List String)
    (route : Route) : Prop where
  declared : ∀ (i : Nat) (type : String) (placed : PlacedField),
    (route.types registry name)[i]? = some type → route.fields[i]? = some placed →
      registry.Declares type placed
  entered : ∀ (i : Nat) (type : String), (route.types registry name)[i + 1]? = some type →
    registry.has type = true ∧ type ∉ expanding ∧ type ∉ (route.types registry name).take (i + 1)

variable {registry : Registry} {name : String} {expanding : List String}

/-- A field alone is a route if the type declares it. -/
theorem isRoute_last_iff {last : PlacedField} :
    registry.IsRoute name expanding ⟨[], last⟩ ↔ registry.Declares name last := by
  constructor
  · intro route
    exact route.declared 0 name last rfl rfl
  · intro declared
    constructor
    · intro i type placed atType atField
      cases i with
      | zero =>
        obtain rfl : name = type := by simpa [Route.types] using atType
        obtain rfl : last = placed := by simpa [Route.fields] using atField
        exact declared
      | succ i => simp [Route.fields] at atField
    · intro i type atType
      simp [Route.types] at atType

/-- A longer route goes on from the first type that it enters, where the type it started from is
excluded as well. -/
theorem isRoute_below_iff {placed : PlacedField} {route : Route} :
    registry.IsRoute name expanding (route.below placed) ↔
      registry.Declares name placed ∧ registry.has (placed.base registry) = true ∧
        placed.base registry ∉ name :: expanding ∧
        registry.IsRoute (placed.base registry) (name :: expanding) route := by
  have types : (route.below placed).types registry name =
      name :: route.types registry (placed.base registry) := rfl
  have fields : (route.below placed).fields = placed :: route.fields := rfl
  constructor
  -- Types and fields of the longer route are those of the shorter one, moved up by one.
  · intro long
    have first := long.entered 0 (placed.base registry) rfl
    refine ⟨long.declared 0 name placed rfl rfl, first.1, ?_, ?_, ?_⟩
    · simpa [types, and_comm] using first.2
    · intro i type next atType atField
      exact long.declared (i + 1) type next (by simpa [types] using atType)
        (by simpa [fields] using atField)
    · intro i type atType
      have entered := long.entered (i + 1) type (by simpa [types] using atType)
      rw [types, List.take_succ_cons, List.mem_cons, not_or] at entered
      exact ⟨entered.1, by simp [entered.2.1, entered.2.2.1], entered.2.2.2⟩
  · rintro ⟨declared, registered, outside, short⟩
    constructor
    · intro i type next atType atField
      cases i with
      | zero =>
        obtain rfl : name = type := by simpa [types] using atType
        obtain rfl : placed = next := by simpa [fields] using atField
        exact declared
      | succ i =>
        exact short.declared i type next (by simpa [types] using atType)
          (by simpa [fields] using atField)
    · intro i type atType
      cases i with
      | zero =>
        obtain rfl : placed.base registry = type := Option.some.inj atType
        simpa [types, registered, and_comm] using outside
      | succ i =>
        have entered := short.entered i type (by simpa [types] using atType)
        rw [List.mem_cons, not_or] at entered
        rw [types, List.take_succ_cons, List.mem_cons, not_or]
        exact ⟨entered.1, entered.2.1.2, entered.2.1.1, entered.2.2⟩

theorem names_nodup (registry : Registry) : registry.names.Nodup :=
  registry.types.distinct

theorem mem_namesOutside {excluded : List String} :
    name ∈ registry.namesOutside excluded ↔ registry.has name = true ∧ name ∉ excluded := by
  have listed : name ∈ registry.names ↔ registry.has name = true :=
    registry.types.mem_keys_iff name
  simp [namesOutside, listed]

/-- Excluding one more name leaves the others, in their order. -/
theorem namesOutside_cons (registry : Registry) (name : String) (excluded : List String) :
    registry.namesOutside (name :: excluded) = (registry.namesOutside excluded).erase name := by
  have distinct : (registry.namesOutside excluded).Nodup := registry.names_nodup.filter _
  rw [distinct.erase_eq_filter, namesOutside, namesOutside, List.filter_filter]
  apply List.filter_congr
  intro other _
  simp only [List.contains_cons, Bool.not_or, bne]

def placedFields (registry : Registry) (name : String) : List PlacedField :=
  ((registry.fields? name).getD []).mapIdx PlacedField.mk

theorem mem_placedFields {placed : PlacedField} :
    placed ∈ registry.placedFields name ↔ registry.Declares name placed := by
  obtain ⟨position, field⟩ := placed
  cases found : registry.fields? name with
  | none => simp [placedFields, Declares, found]
  | some fields => simp [placedFields, Declares, found, List.mem_mapIdx, List.getElem?_eq_some_iff]

theorem placedFields_ordered (registry : Registry) (name : String) :
    (registry.placedFields name).Pairwise fun first second => first.position < second.position := by
  rw [List.pairwise_iff_getElem]
  intro i j _ _ earlier
  simpa [placedFields] using earlier

/-- The routes from a type, when the types of `expanding` are not to be entered. -/
def routes (registry : Registry) (name : String) (expanding : List String) : List Route :=
  (registry.placedFields name).flatMap fun placed =>
    ⟨[], placed⟩ ::
      if _entered : placed.base registry ∈ registry.namesOutside (name :: expanding) then
        (registry.routes (placed.base registry) (name :: expanding)).map (Route.below placed)
      else []
termination_by (registry.namesOutside (name :: expanding)).length
decreasing_by
  rw [namesOutside_cons registry (placed.base registry)]
  exact length_erase_lt _entered

/-- The routes that start with one field: its own, and those below it. -/
def routesFrom (registry : Registry) (excluded : List String) (placed : PlacedField) :
    List Route :=
  ⟨[], placed⟩ ::
    if placed.base registry ∈ registry.namesOutside excluded then
      (registry.routes (placed.base registry) excluded).map (Route.below placed)
    else []

theorem routes_eq_flatMap (registry : Registry) (name : String) (expanding : List String) :
    registry.routes name expanding =
      (registry.placedFields name).flatMap (registry.routesFrom (name :: expanding)) := by
  rw [routes]
  rfl

theorem mem_routesFrom {excluded : List String} {placed : PlacedField} {route : Route} :
    route ∈ registry.routesFrom excluded placed ↔
      route = ⟨[], placed⟩ ∨
        placed.base registry ∈ registry.namesOutside excluded ∧
          ∃ rest ∈ registry.routes (placed.base registry) excluded, rest.below placed = route := by
  rw [routesFrom, List.mem_cons]
  split
  · rename_i entered
    simp [entered]
  · rename_i notEntered
    simp [notEntered]

theorem mem_routes_last_iff {last : PlacedField} :
    ⟨[], last⟩ ∈ registry.routes name expanding ↔ registry.Declares name last := by
  rw [routes_eq_flatMap, List.mem_flatMap, ← mem_placedFields]
  constructor
  · rintro ⟨placed, declared, listed⟩
    rcases mem_routesFrom.1 listed with same | ⟨_, rest, _, impossible⟩
    · rwa [(Route.mk.inj same).2]
    · cases impossible
  · intro declared
    exact ⟨last, declared, mem_routesFrom.2 (.inl rfl)⟩

/-- A route goes on below a field if the type of the field may still be entered. -/
theorem mem_routes_below_iff {placed : PlacedField} {rest : Route} :
    rest.below placed ∈ registry.routes name expanding ↔
      registry.Declares name placed ∧
        placed.base registry ∈ registry.namesOutside (name :: expanding) ∧
        rest ∈ registry.routes (placed.base registry) (name :: expanding) := by
  rw [routes_eq_flatMap, List.mem_flatMap, ← mem_placedFields]
  constructor
  · rintro ⟨first, declared, listed⟩
    rcases mem_routesFrom.1 listed with impossible | ⟨entered, other, otherListed, same⟩
    · cases impossible
    · obtain ⟨rfl, rfl⟩ := Route.below_inj same
      exact ⟨declared, entered, otherListed⟩
  · rintro ⟨declared, entered, listed⟩
    exact ⟨placed, declared, mem_routesFrom.2 (.inr ⟨entered, rest, listed, rfl⟩)⟩

/-- What is listed is what a route is said to be. On the way down, the type that is left has moved
into the excluded ones. -/
theorem mem_routes_iff (route : Route) :
    route ∈ registry.routes name expanding ↔ registry.IsRoute name expanding route := by
  induction route using Route.downward generalizing name expanding with
  | last placed => rw [mem_routes_last_iff, isRoute_last_iff]
  | below placed rest ih =>
    rw [mem_routes_below_iff, isRoute_below_iff, mem_namesOutside, ih, and_assoc]

/-- Each type that is entered is one less to enter. -/
theorem length_above_le {route : Route} (listed : route ∈ registry.routes name expanding) :
    route.above.length ≤ (registry.namesOutside (name :: expanding)).length := by
  induction route using Route.downward generalizing name expanding with
  | last placed => exact Nat.zero_le _
  | below placed rest ih =>
    obtain ⟨_, entered, restListed⟩ := mem_routes_below_iff.1 listed
    have shorter := ih restListed
    have fewer := length_erase_lt entered
    rw [namesOutside_cons] at shorter
    simp only [Route.below, List.length_cons]
    omega

theorem position_of_mem_routesFrom {excluded : List String} {placed : PlacedField} {route : Route}
    (listed : route ∈ registry.routesFrom excluded placed) :
    ∃ tail, route.positions = placed.position :: tail := by
  rcases mem_routesFrom.1 listed with rfl | ⟨_, rest, _, rfl⟩
  · exact ⟨[], rfl⟩
  · exact ⟨rest.positions, rfl⟩

/-- A field comes before what is below it, and all that is below it before the next field. -/
theorem routes_ordered (registry : Registry) (name : String) (expanding : List String) :
    (registry.routes name expanding).Pairwise Route.Before := by
  fun_induction routes registry name expanding with
  | case1 name expanding ih =>
    rw [List.pairwise_flatMap]
    constructor
    · intro placed _
      rw [List.pairwise_cons]
      constructor
      · intro route listed
        split at listed
        · obtain ⟨rest, _, rfl⟩ := List.mem_map.1 listed
          exact rest.last_before_below placed
        · cases listed
      · split
        · rename_i entered
          exact List.pairwise_map.2 ((ih placed entered).imp Route.Before.below)
        · exact .nil
    · apply (registry.placedFields_ordered name).imp
      intro first second earlier route listed other otherListed
      obtain ⟨tail, positions⟩ := position_of_mem_routesFrom listed
      obtain ⟨otherTail, otherPositions⟩ := position_of_mem_routesFrom otherListed
      rw [Route.Before, positions, otherPositions]
      exact List.Lex.rel earlier

theorem routes_nodup (registry : Registry) (name : String) (expanding : List String) :
    (registry.routes name expanding).Nodup := by
  apply (registry.routes_ordered name expanding).imp
  rintro route other before rfl
  exact List.lt_irrefl _ before

theorem map_field_placedFields (registry : Registry) (name : String) :
    (registry.placedFields name).map (·.field) = (registry.fields? name).getD [] := by
  apply List.ext_getElem <;> simp [placedFields]

/-- The walk through a type meets its routes, without the positions. -/
theorem chainsOf_eq_map_routes (registry : Registry) (name : String) (expanding : List String)
    (above : List Field) :
    registry.chainsOf ((registry.fields? name).getD []) above
        (registry.namesOutside (name :: expanding)) =
      (registry.routes name expanding).map fun route =>
        ⟨above ++ route.above.map (·.field), route.last.field⟩ := by
  fun_induction routes registry name expanding generalizing above with
  | case1 name expanding ih =>
    rw [chainsOf, ← map_field_placedFields, List.flatMap_map, List.map_flatMap]
    congr 1
    funext placed
    have base : (FieldType.analyze registry placed.field.declared).base = placed.base registry :=
      rfl
    simp only [base, List.map_cons, List.map_nil, List.append_nil]
    congr 1
    by_cases entered : placed.base registry ∈ registry.namesOutside (name :: expanding)
    · have deeper := ih placed entered (above ++ [placed.field])
      rw [namesOutside_cons registry (placed.base registry)] at deeper
      rw [dif_pos entered, dif_pos entered, deeper, List.map_map]
      simp [Route.below]
    · rw [dif_neg entered, dif_neg entered, List.map_nil]

end Registry

theorem FieldChain.qualifierOf_eq_join (registry : Registry) (qualifier : String)
    (above : List PlacedField) :
    qualifierOf registry qualifier (above.map (·.field)) =
      qualifier ++ String.join (above.map fun placed => placed.base registry ++ ".") := by
  induction above generalizing qualifier with
  | nil => simp [qualifierOf]
  | cons placed above ih =>
    rw [List.map_cons, qualifierOf, List.foldl_cons, ← qualifierOf, ih]
    simp [PlacedField.base, String.append_assoc]

theorem FieldRow.definitionOf_eq (glossary : Glossary) (path name : String) :
    definitionOf glossary path name =
      if glossary.define path = "" then glossary.define name else glossary.define path := by
  by_cases undefined : glossary.define path = ""
  · by_cases same : path = name
    · simp [definitionOf, same]
    · simp [definitionOf, undefined, same]
  · simp [definitionOf, undefined]

/-- The row of the last field of a walk is the row of its route. -/
theorem FieldChain.row_eq (registry : Registry) (glossary : Glossary) (qualifier : String)
    (depth : Int) (route : Route) :
    row registry glossary qualifier depth ⟨route.above.map (·.field), route.last.field⟩ =
      route.row registry glossary qualifier depth := by
  have level : depth + (route.above.map (·.field)).length = depth + route.fields.length - 1 := by
    simp only [Route.fields, List.length_map, List.length_append, List.length_singleton]
    omega
  have shown (type : FieldType) :
      type.shown = (if type.isSlice then "[]" else "") ++ type.base := by
    cases slice : type.isSlice <;> simp [FieldType.shown, slice]
  simp only [row, FieldRow.ofField, Route.row, Route.path, type, level, shown,
    FieldRow.definitionOf_eq, qualifierOf_eq_join]
  rfl

namespace Registry

/-- The field table of a registered type has the routes from it as its rows: each route once, in
the order of the positions of the fields, and none deeper than the types allow. -/
theorem table?_enumerates_routes (registry : Registry) (glossary : Glossary)
    (name qualifier : String) (depth : Int) (expanding : List String)
    (registered : registry.has name = true) :
    ∃ (routes : List Route) (rows : List FieldRow),
      registry.table? glossary name qualifier depth expanding = some rows ∧
      rows = routes.map (Route.row registry glossary qualifier depth) ∧
      (∀ route, route ∈ routes ↔ registry.IsRoute name expanding route) ∧
      routes.Nodup ∧ routes.Pairwise Route.Before ∧
      ∀ row ∈ rows, row.depth ≤ depth + (registry.namesOutside (name :: expanding)).length := by
  have walked := registry.chainsOf_eq_map_routes name expanding []
  have table := registry.table?_eq_map_chains glossary name qualifier depth expanding registered
  rw [chains, walked, List.map_map] at table
  refine ⟨registry.routes name expanding, _, table, ?_, mem_routes_iff,
    registry.routes_nodup name expanding, registry.routes_ordered name expanding, ?_⟩
  · apply List.map_congr_left
    intro route _
    exact FieldChain.row_eq registry glossary qualifier depth route
  · intro row listed
    obtain ⟨route, routeListed, rfl⟩ := List.mem_map.1 listed
    have short := length_above_le routeListed
    have sameRow := FieldChain.row_eq registry glossary qualifier depth route
    simp only [Function.comp_apply, List.nil_append]
    rw [sameRow]
    simp only [Route.row, Route.fields, List.length_append, List.length_singleton]
    omega

/-- Two types that refer to each other: from `Node` only `Leaf` is entered, so no row of the table
is deeper than two levels. -/
theorem circularTypes_table_routes :
    circularTypes.has "Node" = true ∧ ∃ (routes : List Route) (rows : List FieldRow),
      circularTypes.table? Glossary.empty "Node" "" 1 [] = some rows ∧
      rows = routes.map (Route.row circularTypes Glossary.empty "" 1) ∧
      (∀ route, route ∈ routes ↔ circularTypes.IsRoute "Node" [] route) ∧
      routes.Nodup ∧ routes.Pairwise Route.Before ∧ ∀ row ∈ rows, row.depth ≤ 2 := by
  have registered : circularTypes.has "Node" = true := by decide
  have enterable : circularTypes.namesOutside ["Node"] = ["Leaf"] := by decide
  obtain ⟨routes, rows, table, shown, exactly, distinct, ordered, bounded⟩ :=
    table?_enumerates_routes circularTypes Glossary.empty "Node" "" 1 [] registered
  rw [enterable] at bounded
  exact ⟨registered, routes, rows, table, shown, exactly, distinct, ordered, bounded⟩

end Registry

end EndpointDocs
