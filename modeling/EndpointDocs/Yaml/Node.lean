import EndpointDocs.Yaml.Resolve
import EndpointDocs.Yaml.Token

/-!
The nodes of a YAML document. They are numbered in the order in which they begin, and a collection
refers to its parts by their numbers, so that an alias is the number of the node it stands for, even
inside that node.
-/
namespace EndpointDocs.Yaml

inductive Content where
  | scalar (text : Wide)
  | sequence (items : List Nat)
  | mapping (members : List (Nat × Nat))
  deriving DecidableEq, Repr

structure Node where
  tag : String
  content : Content
  deriving DecidableEq, Repr

/-- The reading of a document: the tokens to come, the nodes so far, the anchors, newest first, and
what the handles of tags stand for. -/
structure Reading where
  scan : Scan
  nodes : Array Node
  anchors : List (String × Nat)
  handles : List (String × String)

/-- A step of reading a document. -/
abbrev Read (α : Type) := StateT Reading (Except Error) α

namespace Read

def peek : Read Token := fun reading =>
  match reading.scan.peek with
  | .ok (token, scan) => .ok (token, { reading with scan })
  | .error error => .error error

/-- Drops the next token, which was looked at. -/
def drop : Read Unit := fun reading =>
  .ok ((), { reading with scan := reading.scan.take })

/-- Drops the next token if it is `token`. -/
def accept (token : Token) : Read Bool := do
  if (← peek) = token then
    drop
    return true
  else return false

/-- Drops the next token, which must be `token`. -/
def expect (token : Token) : Read Unit := do
  if !(← accept token) then
    throw .malformed

def language : Read Version := fun reading =>
  .ok (reading.scan.language, reading)

def addNode (anchor : Option String) (node : Node) : Read Nat := fun reading =>
  let number := reading.nodes.size
  let anchors :=
    match anchor with
    | some name => (name, number) :: reading.anchors
    | none => reading.anchors
  .ok (number, { reading with nodes := reading.nodes.push node, anchors })

/-- What a node holds, once that is known. -/
def setContent (number : Nat) (content : Content) : Read Unit := fun reading =>
  .ok ((), { reading with nodes := reading.nodes.modify number fun node => { node with content } })

/-- A scalar that is not written. -/
def addEmpty : Read Nat := do
  addNode none ⟨plainTag (← language) "", .scalar ""⟩

/-- The node of an anchor. -/
def nodeAt (anchor : String) : Read Nat := fun reading =>
  match reading.anchors.lookup anchor with
  | some number => .ok (number, reading)
  | none => .error .malformed

def anchor? : Read (Option String) := do
  match ← peek with
  | .anchor name =>
    drop
    return some name
  | _ => return none

def tag? : Read (Option (Option String × String)) := do
  match ← peek with
  | .tag handle name =>
    drop
    return some (handle, name)
  | _ => return none

/-- A tag in full; its handle must be known. -/
def fullTag (handle : Option String) (name : String) : Read String := fun reading =>
  match handle with
  | none => .ok (name, reading)
  | some handle =>
    match reading.handles.lookup handle with
    | some expansion => .ok (expansion ++ name, reading)
    | none => .error .malformed

/-- Anchor and tag in front of a node, in any order. -/
def properties : Read (Option String × Option String) := do
  let (anchor, tag) ←
    match ← anchor? with
    | some name => pure (some name, ← tag?)
    | none =>
      match ← tag? with
      | some tag => pure (← anchor?, some tag)
      | none => pure (none, none)
  match tag with
  | some (handle, name) => return (anchor, some (← fullTag handle name))
  | none => return (anchor, none)

/-- The tag of a collection: the one in front of it, if it says anything, or that of its kind. -/
def collectionTag (tag : Option String) (kind : String) : String :=
  match tag with
  | some tag => if tag = "!" then standardTag kind else tag
  | none => standardTag kind

/-- The tag of a scalar: the one in front of it, if it says anything, or the one of its spelling. -/
def scalarTag (tag : Option String) (text : Wide) (plain : Bool) : Read String := do
  let spelled := plainTag (← language) text.replaced
  match tag with
  | some tag => return if tag = "!" then spelled else tag
  | none => return if plain then spelled else standardTag "str"

/-- A node of which only an anchor or a tag is written. -/
def emptyNode (anchor tag : Option String) : Read Nat := do
  if anchor.isNone && tag.isNone then
    throw .malformed
  let tag ← scalarTag tag "" true
  addNode anchor ⟨tag, .scalar ""⟩

mutual

/-- A node. In a flow collection, block collections are not allowed; a sequence in a mapping need
not be indented. -/
def node : Nat → (block unindented : Bool) → Read Nat
  | 0, _, _ => throw .malformed
  | fuel + 1, block, unindented => do
    if let .alias name ← peek then
      drop
      return ← nodeAt name
    let (anchor, tag) ← properties
    let sequence (items : Read (List Nat)) : Read Nat := do
      let number ← addNode anchor ⟨collectionTag tag "seq", .sequence []⟩
      setContent number (.sequence (← items))
      return number
    let mapping (members : Read (List (Nat × Nat))) : Read Nat := do
      let number ← addNode anchor ⟨collectionTag tag "map", .mapping []⟩
      setContent number (.mapping (← members))
      return number
    match ← peek with
    | .blockEntry =>
      if unindented then sequence (entries fuel)
      else emptyNode anchor tag
    | .scalar text plain =>
      drop
      let tag ← scalarTag tag text plain
      addNode anchor ⟨tag, .scalar text⟩
    | .flowSequenceStart =>
      sequence do
        drop
        flowItems fuel true
    | .flowMappingStart =>
      mapping do
        drop
        flowMembers fuel true
    | .blockSequenceStart =>
      if block then
        sequence do
          drop
          let items ← entries fuel
          expect .blockEnd
          return items
      else emptyNode anchor tag
    | .blockMappingStart =>
      if block then
        mapping do
          drop
          blockMembers fuel
      else emptyNode anchor tag
    | _ => emptyNode anchor tag

def entries : Nat → Read (List Nat)
  | 0 => throw .malformed
  | fuel + 1 => do
    if ← accept .blockEntry then
      let item ←
        match ← peek with
        | .blockEntry | .blockEnd | .key | .value => addEmpty
        | _ => node fuel true false
      return item :: (← entries fuel)
    else return []

/-- The members of a block mapping, up to its end. -/
def blockMembers : Nat → Read (List (Nat × Nat))
  | 0 => throw .malformed
  | fuel + 1 => do
    let part : Read Nat := do
      match ← peek with
      | .key | .value | .blockEnd => addEmpty
      | _ => node fuel true true
    let member (key : Nat) : Read (List (Nat × Nat)) := do
      let value ← if ← accept .value then part else addEmpty
      return (key, value) :: (← blockMembers fuel)
    match ← peek with
    | .key =>
      drop
      member (← part)
    | .value =>
      if (← language).isNewer then member (← addEmpty) else throw .malformed
    | .blockEnd =>
      drop
      return []
    | _ => throw .malformed

/-- The elements of a flow sequence, up to its end. A key in it is a mapping with one member. -/
def flowItems : Nat → (first : Bool) → Read (List Nat)
  | 0, _ => throw .malformed
  | fuel + 1, first => do
    if ← accept .flowSequenceEnd then
      return []
    if !first then
      expect .flowEntry
    let part : Read Nat := do
      match ← peek with
      | .flowEntry | .flowSequenceEnd => addEmpty
      | _ => node fuel false false
    match ← peek with
    | .key =>
      let number ← addNode none ⟨standardTag "map", .mapping []⟩
      drop
      let key ← if (← peek) = .value then addEmpty else part
      let value ← if ← accept .value then part else addEmpty
      setContent number (.mapping [(key, value)])
      return number :: (← flowItems fuel false)
    | .flowSequenceEnd =>
      drop
      return []
    | _ =>
      let item ← node fuel false false
      return item :: (← flowItems fuel false)

/-- The members of a flow mapping, up to its end. A node without a colon is a key without a
value. -/
def flowMembers : Nat → (first : Bool) → Read (List (Nat × Nat))
  | 0, _ => throw .malformed
  | fuel + 1, first => do
    if ← accept .flowMappingEnd then
      return []
    if !first then
      expect .flowEntry
    let part : Read Nat := do
      match ← peek with
      | .flowEntry | .flowMappingEnd => addEmpty
      | _ => node fuel false false
    let member (key : Nat) : Read (List (Nat × Nat)) := do
      let value ← if ← accept .value then part else addEmpty
      return (key, value) :: (← flowMembers fuel false)
    let lone : Read (List (Nat × Nat)) := do
      let key ← node fuel false false
      let value ← addEmpty
      return (key, value) :: (← flowMembers fuel false)
    match ← peek with
    | .key =>
      drop
      member (← if (← peek) = .value then addEmpty else part)
    | .value => if (← language).isNewer then member (← addEmpty) else lone
    | .flowMappingEnd =>
      drop
      return []
    | _ => lone

end

/-- The handles that are known without a directive. -/
def standardHandles : List (String × String) :=
  [("!", "!"), ("!!", standardTag "")]

/-- What the directives before a document say: the version, and what handles stand for. -/
structure Preamble where
  version : Option Version
  handles : List (String × String)

/-- The directives before a document. A version may be given once, and must be one of the first
major version; a handle may be given once. -/
def directives (fuel : Nat) (preamble : Preamble) : Read Preamble :=
  match fuel with
  | 0 => throw .malformed
  | fuel + 1 => do
    match ← peek with
    | .directive directive =>
      drop
      match directive with
      | .version version =>
        if preamble.version.isSome || version.major != 1 then throw .malformed
        else directives fuel { preamble with version := some version }
      | .handle name expansion =>
        if preamble.handles.any (·.1 == name) then throw .malformed
        else directives fuel { preamble with handles := preamble.handles ++ [(name, expansion)] }
      | .other => directives fuel preamble
    | _ => return preamble

/-- Drops marks of the end of a document. -/
def dropEnds : Nat → Read Unit
  | 0 => return ()
  | fuel + 1 => do
    if ← accept .documentEnd then
      dropEnds fuel

/-- Whether there is a document, of which the mark of its beginning and its directives are read. -/
def documentBegins (fuel : Nat) : Read Bool := do
  dropEnds fuel
  if (← peek) = .textEnd then return false
  else
    let preamble ← directives fuel ⟨none, []⟩
    if let some version := preamble.version then
      if !version.isKnown then
        throw (.unknownVersion version.major version.minor)
    modify fun reading => { reading with handles := preamble.handles ++ standardHandles }
    expect .documentStart
    return true

/-- The only document of a text. After the mark of its end nothing may follow, except that in the
older version of the language the mark may be repeated. -/
def document (fuel : Nat) : Read (Option Nat) := do
  let root ←
    match ← peek with
    | .directive _ | .documentStart | .textEnd =>
      if ← documentBegins fuel then
        match ← peek with
        | .directive _ | .documentStart | .documentEnd | .textEnd => pure (some (← addEmpty))
        | _ => pure (some (← node fuel true false))
      else return none
    | _ => pure (some (← node fuel true false))
  if ← accept .documentEnd then
    if (← language) = Version.older then
      dropEnds fuel
  expect .textEnd
  return root

end Read

/-- The nodes of the only document of a text, and the first of them, if it has any, with the version
of the language. -/
structure Document where
  root : Option Nat
  nodes : Array Node
  language : Version

def Document.ofText (text : List Char) : Except Error Document :=
  if text.all isAllowed then
    let fuel := 4 * text.length + 16
    match Read.document fuel ⟨Scan.start text, #[], [], Read.standardHandles⟩ with
    | .ok (root, reading) => .ok ⟨root, reading.nodes, reading.scan.language⟩
    | .error error => .error error
  else .error .malformed

end EndpointDocs.Yaml
