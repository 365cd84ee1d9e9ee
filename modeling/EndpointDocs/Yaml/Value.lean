import EndpointDocs.Yaml.Node

/-!
The values of the nodes of a document. A collection is there, still empty, as soon as it is met, and
is filled when the collections met before it have been; a collection that serves as a key is filled
at once. So a collection can hold itself, and which of two errors is found first depends on how deep
their nodes lie.
-/
namespace EndpointDocs.Yaml

/-- A value that is being built: a collection is known by its number. -/
inductive Datum where
  | leaf (value : Setting)
  | tuple (items : List Datum)
  | collection (number : Nat)

/-- What a collection holds so far. -/
inductive Collection where
  | list (items : List Datum)
  | set (items : List Datum)
  | map (members : List (Datum × Datum))
  | orderedMap (members : List (Datum × Datum))

def Collection.kindName : Collection → String
  | .list _ => "list"
  | .set _ => "set"
  | .map _ => "dict"
  | .orderedMap _ => "ordereddict"

inductive CollectionTag where
  | seq
  | map
  | set
  | omap
  | pairs
  deriving DecidableEq, Repr

def collectionTag? (tag : String) : Option CollectionTag :=
  if tag = standardTag "seq" then some .seq
  else if tag = standardTag "map" then some .map
  else if tag = standardTag "set" then some .set
  else if tag = standardTag "omap" then some .omap
  else if tag = standardTag "pairs" then some .pairs
  else none

def CollectionTag.empty : CollectionTag → Collection
  | .seq | .pairs => .list []
  | .map => .map []
  | .set => .set []
  | .omap => .orderedMap []

/-- A collection that is not filled yet: its number, what it is, and the node of its content. -/
structure Unfilled where
  number : Nat
  tag : CollectionTag
  node : Nat

/-- The building of values. -/
structure Building where
  language : Version
  nodes : Array Node
  /-- The members that a merge brought into a mapping, for those that had one. -/
  merged : Array (Option (List (Nat × Nat)))
  /-- The values of nodes. -/
  values : Array (Option Datum)
  /-- The nodes whose values are being built. -/
  underWay : Array Bool
  collections : Array Collection
  unfilled : List Unfilled
  /-- Whether collections are filled at once. -/
  atOnce : Bool

abbrev Build (α : Type) := StateT Building (Except Error) α

mutual

def Datum.sameKey : Datum → Datum → Bool
  | .leaf a, .leaf b => a.sameKey b
  | .tuple as, .tuple bs => Datum.sameKeys as bs
  | _, _ => false

def Datum.sameKeys : List Datum → List Datum → Bool
  | [], [] => true
  | a :: as, b :: bs => a.sameKey b && Datum.sameKeys as bs
  | _, _ => false

end

/-- Puts a member in the place of the one with its key, or in front of all. -/
def putDatum (members : List (Datum × Datum)) (key value : Datum) : List (Datum × Datum) :=
  if members.any (·.1.sameKey key) then
    members.map fun member => if member.1.sameKey key then (member.1, value) else member
  else (key, value) :: members

mutual

/-- The first collection among the parts of a key. -/
def Datum.collection? : Datum → Option Nat
  | .leaf _ => none
  | .tuple items => Datum.firstCollection? items
  | .collection number => some number

def Datum.firstCollection? : List Datum → Option Nat
  | [] => none
  | item :: rest =>
    match item.collection? with
    | some number => some number
    | none => Datum.firstCollection? rest

end

namespace Build

def contentOf (node : Nat) : Build Content := fun building =>
  .ok ((building.nodes[node]?.map (·.content)).getD (.scalar ""), building)

def tagOf (node : Nat) : Build String := fun building =>
  .ok ((building.nodes[node]?.map (·.tag)).getD "", building)

def membersOf (node : Nat) : Build (List (Nat × Nat)) := do
  match ← contentOf node with
  | .mapping members => return members
  | _ => throw .malformed

def itemsOf (node : Nat) : Build (List Nat) := do
  match ← contentOf node with
  | .sequence items => return items
  | _ => throw .malformed

def modifyNode (number : Nat) (change : Node → Node) : Build Unit := fun building =>
  .ok ((), { building with nodes := building.nodes.modify number change })

def collection (number : Nat) : Build Collection := fun building =>
  .ok ((building.collections[number]?).getD (.list []), building)

def setCollection (number : Nat) (collection : Collection) : Build Unit := fun building =>
  .ok ((), { building with collections := building.collections.setIfInBounds number collection })

def addCollection (collection : Collection) : Build Nat := fun building =>
  .ok (building.collections.size,
    { building with collections := building.collections.push collection })

/-- Brings the members of merged mappings into a mapping, from its member `index` on; `brought` are
those brought in before. The node changes: a merge key is taken out before what it merges is looked
at, so that a mapping may merge itself. A second merge is an error, unless the first brought
nothing. The key for a default value becomes a text. -/
def mergeFrom : (fuel : Nat) → (node index : Nat) → (brought : List (Nat × Nat)) → Build Unit
  | 0, _, _, _ => throw .malformed
  | fuel + 1, node, index, brought => do
    let members ← membersOf node
    match members[index]? with
    | none =>
      if !brought.isEmpty then
        modifyNode node fun n => { n with content := .mapping (brought ++ members) }
        modify fun building =>
          { building with merged := building.merged.setIfInBounds node (some brought) }
    | some (key, value) =>
      let tag ← tagOf key
      if tag = standardTag "merge" then
        if !brought.isEmpty then
          throw .malformed
        modifyNode node fun n => { n with content := .mapping (members.eraseIdx index) }
        match ← contentOf value with
        | .mapping _ =>
          mergeFrom fuel value 0 []
          mergeFrom fuel node index (← membersOf value)
        | .sequence items =>
          let lists ← items.mapM fun item => do
            let _ ← membersOf item
            mergeFrom fuel item 0 []
            membersOf item
          mergeFrom fuel node index lists.reverse.flatten
        | .scalar _ => throw .malformed
      else
        if tag = standardTag "value" then
          modifyNode key fun n => { n with tag := standardTag "str" }
        mergeFrom fuel node (index + 1) brought

/-- Steps enough for any merge: a mapping grows with every merge at most by what all mappings have.
-/
def mergeFuel : Build Nat := fun building =>
  let members := building.nodes.foldl (fun count node =>
    match node.content with
    | .mapping members => count + members.length
    | .sequence items => count + items.length
    | .scalar _ => count) 1
  let merges := building.nodes.foldl (fun count node =>
    if node.tag = standardTag "merge" then count + 1 else count) 0
  .ok (Nat.pow (members + 2) (merges + 2), building)

/-- The text of a node: a scalar's own, or that of the default value of a mapping. -/
def textOf : (fuel node : Nat) → Build Wide
  | 0, _ => throw .malformed
  | fuel + 1, node => do
    match ← contentOf node with
    | .scalar text => return text
    | .sequence _ => throw .malformed
    | .mapping members =>
      for (key, value) in members do
        if (← tagOf key) = standardTag "value" then
          return ← textOf fuel value
      throw .malformed

/-- The key that a value serves as: a list becomes a tuple, and no other collection is a key. -/
def keyOf (datum : Datum) : Build Datum := do
  match datum with
  | .collection number =>
    match ← collection number with
    | .list items => return .tuple items
    | _ => throw .malformed
  | datum => return datum

/-- A key must not have a collection among its parts. -/
def checkKey (key : Datum) : Build Unit := do
  match key.collection? with
  | some number => throw (.changingKey (← collection number).kindName)
  | none => return ()

/-- How the value of a node is built, at once where it serves as a key. -/
abbrev Builder := (atOnce : Bool) → (node : Nat) → Build Datum

/-- Members with keys and values built by `build`, after those in `all`, the last in front. -/
def mappingWith (build : Builder) (unique : Bool) (all : List (Datum × Datum))
    (members : List (Nat × Nat)) : Build (List (Datum × Datum)) :=
  members.foldlM (fun all (keyNode, valueNode) => do
    let key ← keyOf (← build true keyNode)
    let value ← build false valueNode
    checkKey key
    if unique && all.any (·.1.sameKey key) then
      throw .malformed
    return putDatum all key value) all

/-- The members of a mapping with what it merges. No key may come twice, unless something is merged:
then the mapping's own members, and of these the last, count. -/
def mappingOf (build : Builder) (node : Nat) : Build (List (Datum × Datum)) := do
  let _ ← membersOf node
  mergeFrom (← mergeFuel) node 0 []
  let members ← membersOf node
  match (← get).merged[node]?.join with
  | none => return (← mappingWith build true [] members).reverse
  | some brought =>
    let before ← mappingWith build false [] brought
    return (← mappingWith build false before members).reverse

/-- The members of a mapping that are given one after another. -/
def orderedWith (build : Builder) (items : List Nat) : Build (List (Datum × Datum)) :=
  items.foldlM (fun all item => do
    match ← membersOf item with
    | [(keyNode, valueNode)] =>
      let key ← build false keyNode
      checkKey key
      if all.any (·.1.sameKey key) then
        throw .repeatedKey
      return all ++ [(key, ← build false valueNode)]
    | _ => throw .malformed) []

/-- The pairs that are given one after another. -/
def pairsWith (build : Builder) (items : List Nat) : Build (List Datum) :=
  items.mapM fun item => do
    match ← membersOf item with
    | [(keyNode, valueNode)] =>
      let key ← build false keyNode
      return .tuple [key, ← build false valueNode]
    | _ => throw .malformed

/-- Fills a collection with values built by `build`. -/
def fill (build : Builder) (unfilled : Unfilled) : Build Unit := do
  let content ←
    match unfilled.tag with
    | .seq => pure (.list (← (← itemsOf unfilled.node).mapM (build false)))
    | .map => pure (.map (← mappingOf build unfilled.node))
    | .set => pure (.set ((← mappingOf build unfilled.node).map (·.1)))
    | .omap => pure (.orderedMap (← orderedWith build (← itemsOf unfilled.node)))
    | .pairs => pure (.list (← pairsWith build (← itemsOf unfilled.node)))
  setCollection unfilled.number content

def fresh (build : Builder) (fuel node : Nat) : Build Datum := do
  let tag ← tagOf node
  let language := (← get).language
  match collectionTag? tag, scalarReader? language tag with
  | some kind, _ =>
    let number ← addCollection kind.empty
    let unfilled : Unfilled := ⟨number, kind, node⟩
    if (← get).atOnce then fill build unfilled
    else modify fun building => { building with unfilled := building.unfilled ++ [unfilled] }
    return .collection number
  | none, some read => return .leaf (← liftM (read (← textOf fuel node)))
  | none, none =>
    match ← contentOf node with
    | .scalar text =>
      if tag = standardTag "timestamp" then return .leaf (← liftM (timestampValue text.replaced))
      else throw .malformed
    | _ => throw .malformed

/-- The value of a node. One that is still being built counts as null inside itself. -/
def value : (fuel : Nat) → Builder
  | 0, _, _ => throw .malformed
  | fuel + 1, atOnce, node => do
    let before ← get
    match before.values[node]?.join with
    | some datum => return datum
    | none =>
      if atOnce then
        modify fun building => { building with atOnce := true }
      if (before.underWay[node]?).getD false then
        return .leaf .null
      modify fun building =>
        { building with underWay := building.underWay.setIfInBounds node true }
      let datum ← fresh (value fuel) (fuel + 1) node
      modify fun building =>
        { building with
          values := building.values.setIfInBounds node (some datum)
          underWay := building.underWay.setIfInBounds node false
          atOnce := if atOnce then before.atOnce else building.atOnce }
      return datum

/-- Fills the collections that are not filled yet, in the order in which they were met. -/
def fillAll (build : Builder) : Nat → Build Unit
  | 0 => throw .malformed
  | fuel + 1 => do
    match (← get).unfilled with
    | [] => return ()
    | unfilled :: rest =>
      modify fun building => { building with unfilled := rest }
      fill build unfilled
      fillAll build fuel

end Build

end EndpointDocs.Yaml
