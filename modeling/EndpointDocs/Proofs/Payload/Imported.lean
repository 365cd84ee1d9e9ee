import EndpointDocs.Payload.Module
import Mathlib.Data.List.Basic

/-!
Registries that are filled from modules. A module counts if it can be imported, and of its classes
those that are records of its own. They are registered module by module, and within a module in the
order of their attribute names, so that a type has the fields of the class that comes last: the one
under the greatest attribute name in the last module that defines the type. What comes again, fails
to be imported or is only passed on from another module leaves the registry as it is.
-/
namespace EndpointDocs.Registry

/-- Every import that fails is reported and passed over. -/
def AllReported (modules : List Module) (names : List Wide) : Prop :=
  ∀ name ∈ names, ∀ error, Module.importNamed modules name = .error error → error.isReported = true

/-- The module can be imported and binds the attribute to a record class of its own. -/
structure Binds (modules : List Module) (name : Wide) (key : String) (spec : ClassSpec) : Prop where
  bound : ∃ attributes, Module.importNamed modules name = .ok attributes ∧
    attributes.get? key = some spec
  own : Wide.ofString spec.owner = name
  record : spec.isRecord = true

/-- The module binds a record class of its own with this name. -/
def Defines (modules : List Module) (name : Wide) (type : String) : Prop :=
  ∃ key spec, Binds modules name key spec ∧ spec.name = type

/-- The module binds the class to an attribute, and no class of the same name to a greater one. -/
def Settles (modules : List Module) (name : Wide) (spec : ClassSpec) : Prop :=
  ∃ key, Binds modules name key spec ∧
    ∀ other rival, Binds modules name other rival → rival.name = spec.name → other ≤ key

/-- Whether a module can be imported and binds a record class of its own at all. -/
def contributes (modules : List Module) (name : Wide) : Bool :=
  match Module.importNamed modules name with
  | .ok attributes =>
    attributes.entries.any fun binding =>
      Wide.ofString binding.2.owner = name && binding.2.isRecord
  | .error _ => false

/-- The attributes that a module binds to record classes of its own, in order. -/
def ownBindings (owner : Wide) (attributes : Attributes) : List (String × ClassSpec) :=
  let own := attributes.entries.filter fun binding =>
    Wide.ofString binding.2.owner = owner && binding.2.isRecord
  own.mergeSort fun a b => decide (a.1 ≤ b.1)

/-- The classes that the import of a module brings, in the order in which they are registered. -/
def supplied (modules : List Module) (name : Wide) : List ClassSpec :=
  match Module.importNamed modules name with
  | .ok attributes => payloadTypes name attributes
  | .error _ => []

def registerAll (registry : Registry) (types : List ClassSpec) : Registry :=
  types.foldl (fun registry spec => registry.register spec.name spec.fields) registry

/-- The last class with a name. -/
def lastNamed (type : String) (types : List ClassSpec) : Option ClassSpec :=
  types.reverse.find? (·.name = type)

section LastNamed

variable {type : String}

theorem lastNamed_append (first second : List ClassSpec) :
    lastNamed type (first ++ second) = (lastNamed type second).or (lastNamed type first) := by
  rw [lastNamed, List.reverse_append, List.find?_append]
  rfl

theorem lastNamed_eq_none_iff {types : List ClassSpec} :
    lastNamed type types = none ↔ ∀ spec ∈ types, spec.name ≠ type := by
  simp [lastNamed]

/-- Among bindings in order of their keys, the last class with a name has the greatest key. -/
theorem exists_greatest_of_lastNamed {bindings : List (String × ClassSpec)} {spec : ClassSpec}
    (sorted : bindings.Pairwise fun a b => a.1 ≤ b.1)
    (last : lastNamed type (bindings.map (·.2)) = some spec) :
    ∃ key, (key, spec) ∈ bindings ∧ spec.name = type ∧
      ∀ binding ∈ bindings, binding.2.name = type → binding.1 ≤ key := by
  induction bindings with
  | nil => simp [lastNamed] at last
  | cons first rest ih =>
    obtain ⟨below, restSorted⟩ := List.pairwise_cons.1 sorted
    rw [List.map_cons, ← List.singleton_append, lastNamed_append] at last
    -- A class further on wins, and in this order its key is not below the first one.
    rcases Option.or_eq_some_iff.1 last with inRest | ⟨noneInRest, isFirst⟩
    · obtain ⟨key, listed, named, greatest⟩ := ih restSorted inRest
      refine ⟨key, List.mem_cons_of_mem _ listed, named, fun binding inAll sameName => ?_⟩
      rcases List.mem_cons.1 inAll with rfl | later
      · exact below _ listed
      · exact greatest binding later sameName
    · obtain ⟨named, rfl⟩ : first.2.name = type ∧ first.2 = spec := by
        simpa [lastNamed] using isFirst
      refine ⟨first.1, List.mem_cons_self, named, fun binding inAll sameName => ?_⟩
      rcases List.mem_cons.1 inAll with rfl | later
      · exact String.le_refl _
      · exact absurd sameName (lastNamed_eq_none_iff.1 noneInRest _ (List.mem_map_of_mem later))

end LastNamed

section Registering

theorem types_registerAll (registry : Registry) (types : List ClassSpec) :
    (registry.registerAll types).types =
      types.foldl (fun map spec => map.put spec.name spec.fields) registry.types := by
  induction types generalizing registry with
  | nil => rfl
  | cons spec rest ih => exact ih _

/-- A type has the fields of the last class with its name. -/
theorem fields?_registerAll (types : List ClassSpec) (type : String) :
    (empty.registerAll types).fields? type = (lastNamed type types).map (·.fields) := by
  rw [fields?, types_registerAll, OrderedMap.get?_foldl_put]
  exact Option.or_none

theorem registerAll_append (registry : Registry) (first second : List ClassSpec) :
    registry.registerAll (first ++ second) = (registry.registerAll first).registerAll second :=
  List.foldl_append

theorem registerAll_again (registry : Registry) (types : List ClassSpec) :
    (registry.registerAll types).registerAll types = registry.registerAll types := by
  have same : ((registry.registerAll types).registerAll types).types =
      (registry.registerAll types).types := by
    rw [types_registerAll, types_registerAll, OrderedMap.foldl_put_again]
  generalize (registry.registerAll types).registerAll types = first at same
  generalize registry.registerAll types = second at same
  cases first
  cases second
  cases same
  rfl

/-- A list of names that is repeated brings its classes again each time. -/
theorem registerAll_replicate (registry : Registry) (names : List Wide)
    (bring : Wide → List ClassSpec) (times : Nat) :
    registry.registerAll ((List.replicate (times + 1) names).flatten.flatMap bring) =
      registry.registerAll (names.flatMap bring) := by
  induction times with
  | zero => simp
  | succ times ih =>
    rw [List.replicate_succ', List.flatten_append, List.flatMap_append, registerAll_append, ih]
    simpa using registerAll_again registry (names.flatMap bring)

end Registering

section Modules

variable {modules : List Module}

/-- What a list of modules does: it registers the classes that they bring, in order. -/
theorem addModules_eq {names : List Wide} (reported : AllReported modules names)
    (registry : Registry) :
    (addModules modules registry names).2 =
      .ok (registry.registerAll (names.flatMap (supplied modules))) := by
  induction names generalizing registry with
  | nil => rfl
  | cons name rest ih =>
    have restReported : AllReported modules rest := fun other later =>
      reported other (List.mem_cons_of_mem _ later)
    rw [addModules, List.flatMap_cons, supplied]
    cases imported : Module.importNamed modules name with
    | error error =>
      have passedOver := reported name List.mem_cons_self error imported
      simp only [passedOver, if_true, List.nil_append]
      exact ih restReported registry
    | ok attributes =>
      simp only [registerAll_append]
      exact ih restReported _

theorem mem_ownBindings_iff {name : Wide} {key : String} {spec : ClassSpec}
    {attributes : Attributes}
    (imported : Module.importNamed modules name = .ok attributes) :
    (key, spec) ∈ ownBindings name attributes ↔ Binds modules name key spec := by
  rw [ownBindings, List.mem_mergeSort, List.mem_filter, ← attributes.get?_eq_some_iff]
  constructor
  · rintro ⟨bound, kind⟩
    simp only [Bool.and_eq_true, decide_eq_true_eq] at kind
    exact ⟨⟨attributes, imported, bound⟩, kind.1, kind.2⟩
  · rintro ⟨⟨others, alsoImported, bound⟩, own, record⟩
    rw [imported, Except.ok.injEq] at alsoImported
    subst alsoImported
    exact ⟨bound, by simp [own, record]⟩

theorem ownBindings_sorted (owner : Wide) (attributes : Attributes) :
    (ownBindings owner attributes).Pairwise fun a b => a.1 ≤ b.1 := by
  refine (List.pairwise_mergeSort ?_ ?_ _).imp of_decide_eq_true
  · intro a b c below above
    exact decide_eq_true (String.le_trans (of_decide_eq_true below) (of_decide_eq_true above))
  · intro a b
    simpa using String.le_total a.1 b.1

theorem mem_supplied_iff {name : Wide} {spec : ClassSpec} :
    spec ∈ supplied modules name ↔ ∃ key, Binds modules name key spec := by
  rw [supplied]
  cases imported : Module.importNamed modules name with
  | error error =>
    refine iff_of_false List.not_mem_nil ?_
    rintro ⟨_, ⟨_, alsoImported, _⟩, _, _⟩
    rw [imported] at alsoImported
    cases alsoImported
  | ok attributes =>
    have types : payloadTypes name attributes = (ownBindings name attributes).map (·.2) := rfl
    simp only [types, List.mem_map, Prod.exists, exists_eq_right, mem_ownBindings_iff imported]

theorem lastNamed_supplied_eq_none_iff {name : Wide} {type : String} :
    lastNamed type (supplied modules name) = none ↔ ¬ Defines modules name type := by
  rw [lastNamed_eq_none_iff]
  constructor
  · rintro unnamed ⟨key, spec, binds, named⟩
    exact unnamed spec (mem_supplied_iff.2 ⟨key, binds⟩) named
  · rintro undefined spec listed named
    obtain ⟨key, binds⟩ := mem_supplied_iff.1 listed
    exact undefined ⟨key, spec, binds, named⟩

/-- The last class with its name that a module brings is under the greatest attribute name. -/
theorem settles_of_lastNamed {name : Wide} {type : String} {spec : ClassSpec}
    (last : lastNamed type (supplied modules name) = some spec) :
    Settles modules name spec ∧ spec.name = type := by
  rw [supplied] at last
  cases imported : Module.importNamed modules name with
  | error error => simp [imported, lastNamed] at last
  | ok attributes =>
    simp only [imported] at last
    obtain ⟨key, listed, named, greatest⟩ :=
      exists_greatest_of_lastNamed (ownBindings_sorted name attributes) last
    refine ⟨⟨key, (mem_ownBindings_iff imported).1 listed, ?_⟩, named⟩
    intro other rival binds sameName
    exact greatest (other, rival) ((mem_ownBindings_iff imported).2 binds) (sameName.trans named)

theorem Settles.defines {name : Wide} {type : String} {spec : ClassSpec}
    (settled : Settles modules name spec) (named : spec.name = type) :
    Defines modules name type := by
  obtain ⟨key, binds, _⟩ := settled
  exact ⟨key, spec, binds, named⟩

/-- One attribute name is the greatest, so one class is settled on under each name. -/
theorem Settles.eq {name : Wide} {first second : ClassSpec} (settled : Settles modules name first)
    (alsoSettled : Settles modules name second) (sameName : first.name = second.name) :
    first = second := by
  obtain ⟨firstKey, firstBinds, firstGreatest⟩ := settled
  obtain ⟨secondKey, secondBinds, secondGreatest⟩ := alsoSettled
  have sameKey : firstKey = secondKey := String.le_antisymm
    (secondGreatest _ _ firstBinds sameName) (firstGreatest _ _ secondBinds sameName.symm)
  subst sameKey
  obtain ⟨⟨_, imported, bound⟩, _, _⟩ := firstBinds
  obtain ⟨⟨_, alsoImported, alsoBound⟩, _, _⟩ := secondBinds
  rw [imported, Except.ok.injEq] at alsoImported
  subst alsoImported
  rw [bound, Option.some.injEq] at alsoBound
  exact alsoBound

theorem lastNamed_supplied_eq_some_iff {name : Wide} {type : String} {spec : ClassSpec} :
    lastNamed type (supplied modules name) = some spec ↔
      Settles modules name spec ∧ spec.name = type := by
  constructor
  · exact settles_of_lastNamed
  · rintro ⟨settled, named⟩
    cases last : lastNamed type (supplied modules name) with
    | none => exact absurd (settled.defines named) (lastNamed_supplied_eq_none_iff.1 last)
    | some other =>
      obtain ⟨otherSettled, otherNamed⟩ := settles_of_lastNamed last
      rw [otherSettled.eq settled (otherNamed.trans named.symm)]

theorem lastNamed_flatMap_eq_none_iff {names : List Wide} {type : String} :
    lastNamed type (names.flatMap (supplied modules)) = none ↔
      ∀ name ∈ names, ¬ Defines modules name type := by
  simp only [← lastNamed_supplied_eq_none_iff, lastNamed_eq_none_iff, List.mem_flatMap]
  constructor
  · exact fun unnamed name listed spec supplies => unnamed spec ⟨name, listed, supplies⟩
  · rintro unnamed spec ⟨name, listed, supplies⟩
    exact unnamed name listed spec supplies

/-- The class that a type comes from is settled on by the last module that defines the type. -/
theorem lastNamed_flatMap_eq_some_iff {names : List Wide} {type : String} {spec : ClassSpec} :
    lastNamed type (names.flatMap (supplied modules)) = some spec ↔
      ∃ earlier name later, names = earlier ++ name :: later ∧ Settles modules name spec ∧
        spec.name = type ∧ ∀ other ∈ later, ¬ Defines modules other type := by
  induction names with
  | nil => simp [lastNamed]
  | cons first rest ih =>
    rw [List.flatMap_cons, lastNamed_append, Option.or_eq_some_iff, ih,
      lastNamed_flatMap_eq_none_iff, lastNamed_supplied_eq_some_iff]
    constructor
    · rintro (⟨earlier, name, later, rfl, settled⟩ | ⟨undefined, settled, named⟩)
      · exact ⟨first :: earlier, name, later, rfl, settled⟩
      · exact ⟨[], first, rest, rfl, settled, named, undefined⟩
    · rintro ⟨earlier, name, later, shape, settled, named, undefined⟩
      cases earlier with
      | nil =>
        obtain ⟨rfl, rfl⟩ := List.cons.inj shape
        exact .inr ⟨undefined, settled, named⟩
      | cons _ earlier =>
        obtain ⟨rfl, rfl⟩ := List.cons.inj shape
        exact .inl ⟨earlier, name, later, rfl, settled, named, undefined⟩

theorem supplied_of_isOk_eq_false {name : Wide}
    (failed : (Module.importNamed modules name).isOk = false) : supplied modules name = [] := by
  rw [supplied]
  cases imported : Module.importNamed modules name with
  | error error => rfl
  | ok attributes =>
    rw [imported] at failed
    cases failed

theorem supplied_of_contributes_eq_false {name : Wide}
    (idle : contributes modules name = false) : supplied modules name = [] := by
  rw [contributes] at idle
  rw [supplied]
  cases imported : Module.importNamed modules name with
  | error error => rfl
  | ok attributes =>
    simp only [imported, List.any_eq_false] at idle
    simp only [payloadTypes, List.filter_eq_nil_iff.2 idle, List.mergeSort_nil, List.map_nil]

/-- Names that bring nothing may be left out. -/
theorem flatMap_filter_supplied {kept : Wide → Bool}
    (dropped : ∀ name, kept name = false → supplied modules name = []) (names : List Wide) :
    (names.filter kept).flatMap (supplied modules) = names.flatMap (supplied modules) := by
  induction names with
  | nil => rfl
  | cons name rest ih =>
    rw [List.filter_cons, List.flatMap_cons, ← ih]
    split
    · rw [List.flatMap_cons]
    · rename_i isDropped
      rw [dropped name (by simpa using isDropped), List.nil_append]

/-- Modules are taken in order, each that can be imported with its own record classes. The registry
is that of the names that can be imported. A type is there exactly if one of the modules defines it,
and has the fields of the class that the last of them settles on. Taking the whole list again and
again gives the same registry, and so does every list with the same contributing modules in the same
order, whatever modules that fail to be imported or only pass classes on are listed besides. -/
theorem ofModules_last_definition (modules : List Module) (names : List Wide)
    (reported : AllReported modules names) :
    ∃ registry, (ofModules modules names).2 = .ok registry ∧
      (ofModules modules
        (names.filter fun name => (Module.importNamed modules name).isOk)).2 = .ok registry ∧
      (∀ type, registry.has type = true ↔ ∃ name ∈ names, Defines modules name type) ∧
      (∀ type fields, registry.fields? type = some fields ↔
        ∃ earlier name later spec, names = earlier ++ name :: later ∧
          Settles modules name spec ∧ spec.name = type ∧ spec.fields = fields ∧
          ∀ other ∈ later, ¬ Defines modules other type) ∧
      (∀ times,
        (ofModules modules (List.replicate (times + 1) names).flatten).2 = .ok registry) ∧
      ∀ others, AllReported modules others →
        others.filter (contributes modules) = names.filter (contributes modules) →
        (ofModules modules others).2 = .ok registry := by
  have same {others : List Wide} (othersReported : AllReported modules others)
      (classes : empty.registerAll (others.flatMap (supplied modules)) =
        empty.registerAll (names.flatMap (supplied modules))) :
      (ofModules modules others).2 =
        .ok (empty.registerAll (names.flatMap (supplied modules))) := by
    rw [ofModules, addModules_eq othersReported, classes]
  refine ⟨empty.registerAll (names.flatMap (supplied modules)), same reported rfl, ?_, ?_, ?_, ?_,
    ?_⟩
  · refine same (fun name listed => reported name (List.mem_of_mem_filter listed)) ?_
    rw [flatMap_filter_supplied fun _ => supplied_of_isOk_eq_false]
  · intro type
    rw [has, OrderedMap.has, ← fields?, fields?_registerAll, Option.isSome_map,
      ← Option.ne_none_iff_isSome, ne_eq, lastNamed_flatMap_eq_none_iff]
    simp only [not_forall, not_not, exists_prop]
  -- The last class of a name among all that are supplied is in the last module that settles it.
  · intro type fields
    rw [fields?_registerAll, Option.map_eq_some_iff]
    simp only [lastNamed_flatMap_eq_some_iff]
    constructor
    · rintro ⟨spec, ⟨earlier, name, later, shape, settled, named, undefined⟩, holds⟩
      exact ⟨earlier, name, later, spec, shape, settled, named, holds, undefined⟩
    · rintro ⟨earlier, name, later, spec, shape, settled, named, holds, undefined⟩
      exact ⟨spec, ⟨earlier, name, later, shape, settled, named, undefined⟩, holds⟩
  · intro times
    refine same (fun name listed => ?_) ?_
    · obtain ⟨copy, isCopy, inside⟩ := List.mem_flatten.1 listed
      exact reported name (List.eq_of_mem_replicate isCopy ▸ inside)
    · exact registerAll_replicate empty names (supplied modules) times
  · intro others othersReported sameOrder
    refine same othersReported ?_
    rw [← flatMap_filter_supplied (fun _ => supplied_of_contributes_eq_false) others, sameOrder,
      flatMap_filter_supplied fun _ => supplied_of_contributes_eq_false]

end Modules

def animalClass (owner field : String) (isRecord : Bool) : ClassSpec :=
  ⟨"Animal", owner, isRecord, [⟨field, "int"⟩]⟩

/-- Two record classes of one name, and under greater attribute names a class that is no record and
one that belongs to another module. -/
def animalAttributes : Attributes where
  entries := [("Cat", animalClass "pets" "lives" true), ("Ant", animalClass "pets" "legs" true),
    ("Dog", animalClass "pets" "tricks" false), ("Eel", animalClass "sea" "volts" true)]
  distinct := by decide

/-- A module of animals, one that passes its classes on, and one that cannot be imported. -/
def animalModules : List Module :=
  [⟨"pets", .ok animalAttributes⟩, ⟨"shop", .ok animalAttributes⟩, ⟨"farm", .error "no gate"⟩]

def animalNames : List Wide :=
  ["farm", "pets", "pets.small", "shop"]

theorem animalModules_imports :
    Module.importNamed animalModules "pets" = .ok animalAttributes ∧
      Module.importNamed animalModules "shop" = .ok animalAttributes ∧
      Module.importNamed animalModules "farm" = .error (.failed "no gate") ∧
      Module.importNamed animalModules "pets.small" =
        .error (.notPackage "pets.small" "pets") := by
  decide +kernel

theorem pets_settles : Settles animalModules "pets" (animalClass "pets" "lives" true) := by
  have pets := animalModules_imports.1
  refine ⟨"Cat", ⟨⟨_, pets, by decide⟩, rfl, rfl⟩, ?_⟩
  rintro other rival ⟨⟨attributes, imported, bound⟩, own, record⟩ -
  rw [pets, Except.ok.injEq] at imported
  subst imported
  rw [OrderedMap.get?_eq_some_iff] at bound
  simp only [animalAttributes, List.mem_cons, List.not_mem_nil, or_false, Prod.mk.injEq] at bound
  rcases bound with ⟨rfl, _⟩ | ⟨rfl, _⟩ | ⟨_, rfl⟩ | ⟨_, rfl⟩
  · exact String.le_refl _
  · decide
  · cases record
  · exact absurd own (by decide)

theorem shop_defines_nothing (type : String) : ¬ Defines animalModules "shop" type := by
  rintro ⟨key, spec, ⟨⟨attributes, imported, bound⟩, own, -⟩, -⟩
  rw [animalModules_imports.2.1, Except.ok.injEq] at imported
  subst imported
  rw [OrderedMap.get?_eq_some_iff] at bound
  simp only [animalAttributes, List.mem_cons, List.not_mem_nil, or_false, Prod.mk.injEq] at bound
  rcases bound with ⟨_, rfl⟩ | ⟨_, rfl⟩ | ⟨_, rfl⟩ | ⟨_, rfl⟩ <;> exact absurd own (by decide)

/-- Modules that cannot be imported, and a module that only passes classes on, change nothing. -/
theorem animalModules_last_definition :
    AllReported animalModules animalNames ∧
      ∃ registry,
        (ofModules animalModules animalNames).2 = .ok registry ∧
        (ofModules animalModules ["pets", "shop"]).2 = .ok registry ∧
        registry.fields? "Animal" = some [⟨"lives", "int"⟩] := by
  obtain ⟨pets, shop, farm, small⟩ := animalModules_imports
  have reported : AllReported animalModules animalNames := by
    intro name listed error failed
    simp only [animalNames, List.mem_cons, List.not_mem_nil, or_false] at listed
    rcases listed with rfl | rfl | rfl | rfl
    · rw [farm] at failed
      cases failed
      rfl
    · rw [pets] at failed
      cases failed
    · rw [small] at failed
      cases failed
      rfl
    · rw [shop] at failed
      cases failed
  obtain ⟨registry, whole, importable, _, fields, _, _⟩ :=
    ofModules_last_definition animalModules _ reported
  have kept : animalNames.filter (fun name => (Module.importNamed animalModules name).isOk) =
      [Wide.ofString "pets", "shop"] := by
    simp only [animalNames, List.filter, farm, pets, small, shop, Except.isOk, Except.toBool]
  rw [kept] at importable
  refine ⟨reported, registry, whole, importable, (fields _ _).2 ?_⟩
  refine ⟨["farm"], "pets", ["pets.small", "shop"], _, rfl, pets_settles, rfl, rfl, ?_⟩
  intro other later
  simp only [List.mem_cons, List.not_mem_nil, or_false] at later
  rcases later with rfl | rfl
  · rintro ⟨_, _, ⟨⟨_, imported, _⟩, _, _⟩, _⟩
    rw [small] at imported
    cases imported
  · exact shop_defines_nothing "Animal"

end EndpointDocs.Registry
