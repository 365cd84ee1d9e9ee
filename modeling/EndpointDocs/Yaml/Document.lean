import EndpointDocs.Yaml.Value

/-!
The value of a YAML document. Values that were built are put together, and a collection that holds
itself is marked where it comes again.
-/
namespace EndpointDocs.Yaml

/-- The values of collections that do not depend on what holds them, as far as they are known. -/
abbrev Known := Array (Option Setting)

def Collection.kind : Collection → CollectionKind
  | .list _ | .set _ => .list
  | .map _ => .map
  | .orderedMap _ => .orderedMap

/-- Puts a value together. The collections that hold it are given, innermost first, and tuples are
given without a number. The result tells how many of these it refers to, counted to the outermost.
-/
def assemble (collections : Array Collection) :
    (fuel : Nat) → (holders : List (Option Nat)) → Datum → StateM Known (Setting × Nat)
  | 0, _, _ => return (.null, 0)
  | fuel + 1, holders, datum => do
    let items (holders : List (Option Nat)) (data : List Datum) :
        StateM Known (List Setting × Nat) := do
      let parts ← data.mapM (assemble collections fuel holders)
      return (parts.map (·.1), (parts.map (·.2)).foldl max 0 - 1)
    let members (holders : List (Option Nat)) (data : List (Datum × Datum)) :
        StateM Known (List (Setting × Setting) × Nat) := do
      let keys ← items holders (data.map (·.1))
      let values ← items holders (data.map (·.2))
      return (keys.1.zip values.1, max keys.2 values.2)
    match datum with
    | .leaf value => return (value, 0)
    | .tuple data =>
      let (parts, reach) ← items (none :: holders) data
      return (.tuple parts, reach)
    | .collection number =>
      let collection := (collections[number]?).getD (.list [])
      match (← get)[number]?.join, holders.findIdx? (· == some number) with
      | some value, _ => return (value, 0)
      | none, some levels => return (.again levels collection.kind, levels + 1)
      | none, none =>
        let inside := some number :: holders
        let (value, reach) ←
          match collection with
          | .list data => do
            let (parts, reach) ← items inside data
            pure (Setting.list parts, reach)
          | .set data => do
            let (parts, reach) ← items inside data
            pure (Setting.set parts, reach)
          | .map data => do
            let (parts, reach) ← members inside data
            pure (Setting.map parts, reach)
          | .orderedMap data => do
            let (parts, reach) ← members inside data
            pure (Setting.orderedMap parts, reach)
        if reach = 0 then
          modify fun known => known.setIfInBounds number (some value)
        return (value, reach)

/-- The value of the first node. The members of a mapping stand for themselves: where they hold it,
they hold the whole of it. -/
def Building.result (building : Building) (root : Datum) : Setting :=
  let fuel := 4 * building.nodes.size + 16
  let known : Known := building.collections.map fun _ => none
  let alone (datum : Datum) : StateM Known Setting := do
    let (value, _) ← assemble building.collections fuel [] datum
    return value
  let members (data : List (Datum × Datum)) : List (Setting × Setting) :=
    ((data.mapM fun (key, value) => do return (← alone key, ← alone value)).run known).1
  match root with
  | .collection number =>
    match building.collections[number]? with
    | some (.map data) => .map (members data)
    | some (.orderedMap data) => .orderedMap (members data)
    | _ => ((alone root).run known).1
  | root => ((alone root).run known).1

/-- The value of a document. One without nodes has the value null. -/
def Document.value (document : Document) : Except Error Setting :=
  match document.root with
  | none => .ok .null
  | some root =>
    let size := document.nodes.size
    let start : Building :=
      { language := document.language
        nodes := document.nodes
        merged := Array.replicate size none
        values := Array.replicate size none
        underWay := Array.replicate size false
        collections := #[]
        unfilled := []
        atOnce := false }
    let build := Build.value (size + 2)
    let run : Build Datum := do
      let datum ← build false root
      Build.fillAll build (size + 2)
      return datum
    match run start with
    | .ok (datum, building) => .ok (building.result datum)
    | .error error => .error error

def load (text : List Char) : Except Error Setting :=
  match Document.ofText text with
  | .ok document => document.value
  | .error error => .error error

end EndpointDocs.Yaml
