import EndpointDocs.Files.Path

/-!
A tree of files without links: directories and the bytes of regular files, by their place below
the root. A path is followed name by name from the working directory or the root; every name but
the last must lead to a directory. Reading changes nothing, writing changes one file, and creating
directories changes no file.
-/
namespace EndpointDocs

/-- The names that lead from the root to a file or directory. -/
abbrev Place := List Wide

inductive Entry where
  | directory
  | file (bytes : List UInt8)
  deriving DecidableEq, Repr

inductive FileFault where
  | missing
  | exists
  | notDirectory
  | isDirectory
  | nameTooLong
  deriving DecidableEq, Repr

/-- A refused operation: the fault and the path it was asked for, or a path with a NUL character or
with a half of a surrogate pair, which is refused before the tree is looked at. -/
inductive FileError where
  | refused (fault : FileFault) (path : Path)
  | nulInPath
  /-- A text that cannot be encoded: that of a path, or one that is to be written. -/
  | unencodable (fault : Text.Utf8.EncodeFault)
  deriving DecidableEq, Repr

def FileFault.label : FileFault → String
  | .missing => "[Errno 2] No such file or directory"
  | .exists => "[Errno 17] File exists"
  | .notDirectory => "[Errno 20] Not a directory"
  | .isDirectory => "[Errno 21] Is a directory"
  | .nameTooLong => "[Errno 36] File name too long"

def FileError.message : FileError → String
  | .refused fault path => fault.label ++ ": " ++ Text.quoted path.text
  | .nulInPath => "embedded null byte"
  | .unencodable fault => fault.message

/-- The error, unless it was the system that refused the operation. -/
def FileError.refusal? : FileError → Option FileError
  | .refused _ _ => none
  | .nulInPath => some .nulInPath
  | .unencodable fault => some (.unencodable fault)

/-- Why a path is refused before the tree is looked at. -/
def Path.refusal? (path : Path) : Option FileError :=
  match path.encodeFault? with
  | some fault => some (.unencodable fault)
  | none => if path.hasNul then some .nulInPath else none

/-- A tree and the working directory. Places that are not listed are empty, except the root. -/
structure Tree where
  workingDirectory : Place
  entries : List (Place × Entry)
  deriving DecidableEq, Repr

namespace Tree

def at? (tree : Tree) (place : Place) : Option Entry :=
  if place = [] then some .directory
  else (tree.entries.find? (fun entry => entry.1 = place)).map (·.2)

def isDirectoryAt (tree : Tree) (place : Place) : Bool :=
  tree.at? place = some .directory

def setEntry (place : Place) (entry : Entry) : List (Place × Entry) → List (Place × Entry)
  | [] => [(place, entry)]
  | (p, e) :: rest =>
    if p = place then (place, entry) :: rest else (p, e) :: setEntry place entry rest

def set (tree : Tree) (place : Place) (entry : Entry) : Tree :=
  { tree with entries := setEntry place entry tree.entries }

/-- The longest name, counted in bytes. -/
def maxNameBytes : Nat :=
  255

def startOf (tree : Tree) (path : Path) : Place :=
  if path.isAbsolute then [] else tree.workingDirectory

/-- The place that one name leads to from a directory. -/
def enter (tree : Tree) (place : Place) (name : Wide) : Except FileFault Place :=
  if !tree.isDirectoryAt place then .error .notDirectory
  else if name = ".." then .ok place.dropLast
  else if maxNameBytes < Path.byteSize name then .error .nameTooLong
  else if (tree.at? (place ++ [name])).isSome then .ok (place ++ [name])
  else .error .missing

/-- The place that names lead to, one after another. -/
def follow (tree : Tree) (place : Place) : List Wide → Except FileFault Place
  | [] => .ok place
  | name :: rest =>
    match tree.enter place name with
    | .ok next => tree.follow next rest
    | .error fault => .error fault

/-- The place of an existing file or directory. A path that is too long is not followed at all. -/
def locate (tree : Tree) (path : Path) : Except FileFault Place :=
  if path.isTooLong then .error .nameTooLong
  else tree.follow (tree.startOf path) path.names

/-- The place that a path names, whether something stands there or not: its directory must exist. -/
def target (tree : Tree) (path : Path) : Except FileFault Place :=
  if path.isTooLong then .error .nameTooLong
  else
    match path.names.getLast? with
    | none => .ok (tree.startOf path)
    | some last =>
      match tree.follow (tree.startOf path) path.names.dropLast with
      | .error fault => .error fault
      | .ok directory =>
        match tree.enter directory last with
        | .error .missing => .ok (directory ++ [last])
        | result => result

/-- Whether a path names something that exists. Names that are too long are refused. -/
def exists? (tree : Tree) (path : Path) : Except FileError Bool :=
  if path.refusal?.isSome then .ok false
  else
    match tree.locate path with
    | .ok _ => .ok true
    | .error .nameTooLong => .error (.refused .nameTooLong path)
    | .error _ => .ok false

/-- Whether a path names a directory. Names that are too long are refused. -/
def isDirectory? (tree : Tree) (path : Path) : Except FileError Bool :=
  if path.refusal?.isSome then .ok false
  else
    match tree.locate path with
    | .ok place => .ok (tree.isDirectoryAt place)
    | .error .nameTooLong => .error (.refused .nameTooLong path)
    | .error _ => .ok false

def read (tree : Tree) (path : Path) : Except FileError (List UInt8) :=
  match path.refusal? with
  | some error => .error error
  | none =>
    match tree.locate path with
    | .error fault => .error (.refused fault path)
    | .ok place =>
      match tree.at? place with
      | some (.file bytes) => .ok bytes
      | some .directory => .error (.refused .isDirectory path)
      | none => .error (.refused .missing path)

def write (tree : Tree) (path : Path) (bytes : List UInt8) : Except FileError Tree :=
  match path.refusal? with
  | some error => .error error
  | none =>
    match tree.target path with
    | .error fault => .error (.refused fault path)
    | .ok place =>
      if tree.isDirectoryAt place then .error (.refused .isDirectory path)
      else .ok (tree.set place (.file bytes))

def createDirectory (tree : Tree) (path : Path) : Except FileFault Tree :=
  match tree.target path with
  | .error fault => .error fault
  | .ok place =>
    if (tree.at? place).isSome then .error .exists else .ok (tree.set place .directory)

def leadsToDirectory (tree : Tree) (path : Path) : Bool :=
  match tree.locate path with
  | .ok place => tree.isDirectoryAt place
  | .error _ => false

def createOrKeep (tree : Tree) (path : Path) : Option FileError × Tree :=
  match tree.createDirectory path with
  | .ok created => (none, created)
  | .error fault =>
    if tree.leadsToDirectory path then (none, tree) else (some (.refused fault path), tree)

/-- Creates the directory with `names` after `anchor`, newest name first, and the directories
above it that are missing. Directories created before a refusal stay. -/
def createAbove (tree : Tree) (anchor : Anchor) : List Wide → Option FileError × Tree
  | [] => tree.createOrKeep ⟨anchor, []⟩
  | last :: above =>
    let path : Path := ⟨anchor, (last :: above).reverse⟩
    match tree.createDirectory path with
    | .error .missing =>
      match createAbove tree anchor above with
      | (none, prepared) => prepared.createOrKeep path
      | refused => refused
    -- created, or there already, or refused for good
    | _ => tree.createOrKeep path

/-- Creates a directory and the directories above it that are missing. -/
def createDirectories (tree : Tree) (path : Path) : Option FileError × Tree :=
  match path.refusal? with
  | some error => (some error, tree)
  | none => tree.createAbove path.anchor path.names.reverse

/-- What stands below a place, by the names that lead there from it. -/
def entriesBelow (tree : Tree) (place : Place) : List (List Wide × Entry) :=
  tree.entries.filterMap fun (p, entry) =>
    match place.isPrefixOf? p with
    | some (name :: rest) => some (name :: rest, entry)
    | _ => none

/-- The regular files below a place, by the names that lead to them from it. -/
def filesBelow (tree : Tree) (place : Place) : List (List Wide) :=
  (tree.entriesBelow place).filterMap fun (names, entry) =>
    match entry with
    | .file _ => some names
    | .directory => none

end Tree

end EndpointDocs
