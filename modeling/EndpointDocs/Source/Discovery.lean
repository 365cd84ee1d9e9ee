import EndpointDocs.Files.Glob
import EndpointDocs.Files.Tree

/-!
Finding the sources below a directory: the regular files at any depth whose name has one of the
suffixes and matches none of the excluded patterns, in path order.
-/
namespace EndpointDocs

inductive DiscoveryError where
  | notDirectory (root : Path)
  | file (error : FileError)
  deriving DecidableEq, Repr

def DiscoveryError.message : DiscoveryError → Wide
  | .notDirectory root => Wide.ofString "Source root '" ++ root.text ++ "' is not a directory."
  | .file error => error.message

namespace Discovery

def isSource (suffixes exclude : List Wide) (name : Wide) : Bool :=
  suffixes.any (·.isSuffixOf name) &&
    !exclude.any (fun pattern => Glob.matchesName pattern name)

/-- The sources below a directory, by the names that lead to them from it, in path order. -/
def below (tree : Tree) (suffixes exclude : List Wide) (place : Place) : List (List Wide) :=
  ((tree.filesBelow place).filter fun names =>
    isSource suffixes exclude (names.getLast?.getD [])).mergeSort Path.namesLe

/-- The first path below `root` that has too many bytes to be followed. -/
def tooLong? (tree : Tree) (root : Path) (place : Place) : Option Path :=
  let all := ((tree.entriesBelow place).map (·.1)).mergeSort Path.namesLe
  (all.map fun names => (⟨root.anchor, root.names ++ names⟩ : Path)).find? Path.isTooLong

/-- The sources below `root`. Everything below it is looked at, so every path must be short enough
to be followed. -/
def sources (tree : Tree) (suffixes exclude : List Wide) (root : Path) :
    Except DiscoveryError (List Path) :=
  match tree.isDirectory? root with
  | .error error => .error (.file error)
  | .ok false => .error (.notDirectory root)
  | .ok true =>
    match tree.locate root with
    | .error _ => .error (.notDirectory root)
    | .ok place =>
      -- a path that cannot be asked about ends the search, whether it is a source or not
      match tooLong? tree root place with
      | some path => .error (.file (.refused .nameTooLong path))
      | none =>
        .ok ((below tree suffixes exclude place).map fun names =>
          ⟨root.anchor, root.names ++ names⟩)

end Discovery

end EndpointDocs
