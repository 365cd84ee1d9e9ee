/-!
Maps that keep the order in which their keys first came. Putting a value under a key that is
there replaces the value in its place.
-/
namespace EndpointDocs

/-- Keys and values in the order in which the keys first came; no key comes twice. -/
structure OrderedMap (α β : Type) where
  entries : List (α × β)
  distinct : (entries.map (·.1)).Nodup
  deriving DecidableEq, Repr

namespace OrderedMap

variable {α β : Type} [DecidableEq α]

def empty : OrderedMap α β :=
  ⟨[], List.nodup_nil⟩

def putEntry (key : α) (value : β) : List (α × β) → List (α × β)
  | [] => [(key, value)]
  | (k, v) :: rest => if k = key then (key, value) :: rest else (k, v) :: putEntry key value rest

theorem mem_keys_putEntry {key other : α} {value : β} {entries : List (α × β)} :
    other ∈ (putEntry key value entries).map (·.1) ↔ other = key ∨ other ∈ entries.map (·.1) := by
  induction entries with
  | nil => simp [putEntry]
  | cons entry rest ih =>
    obtain ⟨k, v⟩ := entry
    by_cases same : k = key
    · simp [putEntry, same]
    · simp only [putEntry, if_neg same, List.map_cons, List.mem_cons, ih]
      exact or_left_comm

/-- Putting keeps the keys distinct. -/
theorem putEntry_distinct {key : α} {value : β} {entries : List (α × β)}
    (distinct : (entries.map (·.1)).Nodup) : ((putEntry key value entries).map (·.1)).Nodup := by
  induction entries with
  | nil => simp [putEntry]
  | cons entry rest ih =>
    obtain ⟨k, v⟩ := entry
    obtain ⟨absent, restDistinct⟩ := List.nodup_cons.1 distinct
    by_cases same : k = key
    · simpa [putEntry, same] using distinct
    · simp only [putEntry, if_neg same, List.map_cons]
      refine List.nodup_cons.2 ⟨fun listed => ?_, ih restDistinct⟩
      rcases mem_keys_putEntry.1 listed with equal | listed
      · exact same equal
      · exact absent listed

/-- A key that is not there yet comes last. -/
theorem putEntry_of_absent {key : α} {value : β} {entries : List (α × β)}
    (absent : key ∉ entries.map (·.1)) :
    putEntry key value entries = entries ++ [(key, value)] := by
  induction entries with
  | nil => rfl
  | cons entry rest ih =>
    obtain ⟨k, v⟩ := entry
    simp only [List.map_cons, List.mem_cons, not_or] at absent
    simp only [putEntry, if_neg (Ne.symm absent.1), ih absent.2, List.cons_append]

def put (map : OrderedMap α β) (key : α) (value : β) : OrderedMap α β :=
  ⟨putEntry key value map.entries, putEntry_distinct map.distinct⟩

def get? (map : OrderedMap α β) (key : α) : Option β :=
  (map.entries.find? (fun entry => entry.1 = key)).map (·.2)

def has (map : OrderedMap α β) (key : α) : Bool :=
  (map.get? key).isSome

/-- What was put under a key is found there, and nothing else is found elsewhere. -/
theorem find?_putEntry (key other : α) (value : β) (entries : List (α × β)) :
    ((putEntry key value entries).find? (fun entry => entry.1 = other)).map (·.2) =
      if other = key then some value
      else (entries.find? (fun entry => entry.1 = other)).map (·.2) := by
  induction entries with
  | nil =>
    by_cases same : other = key
    · simp [putEntry, same]
    · simp [putEntry, same, Ne.symm same]
  | cons entry rest ih =>
    obtain ⟨k, v⟩ := entry
    by_cases here : k = key
    · by_cases same : other = key
      · simp [putEntry, here, same]
      · simp [putEntry, here, same, Ne.symm same]
    · simp only [putEntry, if_neg here, List.find?_cons]
      by_cases found : k = other
      · subst found
        simp [here]
      · simp [found, ih]

/-- The value put last under a key is found there, and the other keys keep theirs. -/
theorem get?_put (map : OrderedMap α β) (key other : α) (value : β) :
    (map.put key value).get? other = if other = key then some value else map.get? other :=
  find?_putEntry key other value map.entries

/-- After values were put one after another, a key has the one put last under it, or what it had
before. -/
theorem get?_foldl_put {γ : Type} (map : OrderedMap α β) (key : γ → α) (value : γ → β)
    (items : List γ) (other : α) :
    (items.foldl (fun map item => map.put (key item) (value item)) map).get? other =
      ((items.reverse.find? (fun item => key item = other)).map value).or (map.get? other) := by
  induction items generalizing map with
  | nil => rfl
  | cons item rest ih =>
    rw [List.foldl_cons, ih, get?_put, List.reverse_cons, List.find?_append]
    cases rest.reverse.find? (fun item => key item = other) with
    | some later => rfl
    | none =>
      by_cases same : key item = other
      · simp [same]
      · simp [same, Ne.symm same]

def keys (map : OrderedMap α β) : List α :=
  map.entries.map (·.1)

theorem mem_keys_iff (map : OrderedMap α β) (key : α) : key ∈ map.keys ↔ map.has key = true := by
  simp [keys, has, get?]

/-- A value is found under a key exactly if the two stand together. -/
theorem get?_eq_some_iff (map : OrderedMap α β) {key : α} {value : β} :
    map.get? key = some value ↔ (key, value) ∈ map.entries := by
  obtain ⟨entries, distinct⟩ := map
  induction entries with
  | nil => simp [get?]
  | cons entry rest ih =>
    obtain ⟨k, v⟩ := entry
    obtain ⟨absent, restDistinct⟩ := List.nodup_cons.1 distinct
    have later := ih restDistinct
    simp only [get?] at later ⊢
    by_cases here : k = key
    · subst here
      have notLater : (k, value) ∉ rest := fun listed => absent (List.mem_map.2 ⟨_, listed, rfl⟩)
      simp [notLater, eq_comm]
    · simp [here, Ne.symm here, later]

/-- The entries are the keys in order, each with the value found under it. -/
theorem map_entries_eq (map : OrderedMap α β) :
    map.entries.map (fun entry => (entry.1, some entry.2)) =
      map.keys.map fun key => (key, map.get? key) := by
  rw [keys, List.map_map]
  refine List.map_congr_left fun entry listed => ?_
  rw [Function.comp_apply, (get?_eq_some_iff map).2 listed]

theorem eq_of_keys_of_get? {first second : OrderedMap α β} (sameKeys : first.keys = second.keys)
    (sameValues : ∀ key, first.get? key = second.get? key) : first = second := by
  have same : first.entries = second.entries := by
    refine (List.map_inj_right (f := fun entry => (entry.1, some entry.2)) ?_).1 ?_
    · rintro ⟨_, _⟩ ⟨_, _⟩ equal
      cases equal
      rfl
    · rw [map_entries_eq, map_entries_eq, sameKeys, funext sameValues]
  cases first
  cases second
  cases same
  rfl

theorem putEntry_keys_of_mem {key : α} (value : β) {entries : List (α × β)}
    (listed : key ∈ entries.map (·.1)) :
    (putEntry key value entries).map (·.1) = entries.map (·.1) := by
  induction entries with
  | nil => cases listed
  | cons entry rest ih =>
    obtain ⟨k, v⟩ := entry
    by_cases here : k = key
    · simp [putEntry, here]
    · have later : key ∈ rest.map (·.1) := by simpa [Ne.symm here] using listed
      simp only [putEntry, if_neg here, List.map_cons, ih later]

theorem mem_keys_foldl_put {γ : Type} (map : OrderedMap α β) (key : γ → α) (value : γ → β)
    {items : List γ} {item : γ} (listed : item ∈ items) :
    key item ∈ (items.foldl (fun map item => map.put (key item) (value item)) map).keys := by
  rw [mem_keys_iff, has, get?_foldl_put]
  have found : (items.reverse.find? (fun other => key other = key item)).isSome := by
    rw [List.find?_isSome]
    exact ⟨item, List.mem_reverse.2 listed, by simp⟩
  obtain ⟨last, isLast⟩ := Option.isSome_iff_exists.1 found
  rw [isLast]
  rfl

/-- Keys that are there keep their places. -/
theorem keys_foldl_put_of_mem {γ : Type} (map : OrderedMap α β) (key : γ → α) (value : γ → β)
    {items : List γ} (listed : ∀ item ∈ items, key item ∈ map.keys) :
    (items.foldl (fun map item => map.put (key item) (value item)) map).keys = map.keys := by
  induction items generalizing map with
  | nil => rfl
  | cons item rest ih =>
    have same : (map.put (key item) (value item)).keys = map.keys :=
      putEntry_keys_of_mem _ (listed item List.mem_cons_self)
    rw [List.foldl_cons, ih _ fun other later => same ▸ listed other (List.mem_cons_of_mem _ later),
      same]

/-- Putting the same values once more, in the same order, changes nothing. -/
theorem foldl_put_again {γ : Type} (map : OrderedMap α β) (key : γ → α) (value : γ → β)
    (items : List γ) :
    items.foldl (fun map item => map.put (key item) (value item))
        (items.foldl (fun map item => map.put (key item) (value item)) map) =
      items.foldl (fun map item => map.put (key item) (value item)) map := by
  apply eq_of_keys_of_get?
  · exact keys_foldl_put_of_mem _ _ _ fun item listed => mem_keys_foldl_put map key value listed
  · intro other
    rw [get?_foldl_put, get?_foldl_put]
    cases (items.reverse.find? (fun item => key item = other)) <;> rfl

def size (map : OrderedMap α β) : Nat :=
  map.entries.length

end OrderedMap

end EndpointDocs
