import EndpointDocs.Text.Utf8

/-!
Paths of files, as they are written: an anchor and the names after it. Reading a path drops empty
names and single dots; a name of two dots stays, because what it leads to depends on the tree. In a
name, the halves of surrogate pairs from U+DC80 to U+DCFF stand for the bytes from 80 to FF.
-/
namespace EndpointDocs

/-- Where a path starts: at the working directory, or at the root, which may be written with one or
with exactly two slashes. -/
inductive Anchor where
  | here
  | root
  | doubleRoot
  deriving DecidableEq, Repr

structure Path where
  anchor : Anchor
  names : List Wide
  deriving DecidableEq, Repr

namespace Path

def anchorOf (slashes : Nat) : Anchor :=
  if slashes = 0 then .here else if slashes = 2 then .doubleRoot else .root

def ofText (text : Wide) : Path :=
  let pieces := (text.splitOn (.char '/')).filter fun piece =>
    !(piece.isEmpty || piece == [.char '.'])
  ⟨anchorOf (text.takeWhile (· == .char '/')).length, pieces⟩

def anchorText : Anchor → Wide
  | .here => ""
  | .root => "/"
  | .doubleRoot => "//"

/-- The path as text; the working directory is a single dot. -/
def text (path : Path) : Wide :=
  if path.anchor = .here && path.names.isEmpty then "."
  else anchorText path.anchor ++ List.intercalate "/" path.names

def isAbsolute (path : Path) : Bool :=
  path.anchor != .here

/-- The path that `tail` names from `base`: `tail` itself if it starts at the root. -/
def join (base tail : Path) : Path :=
  if tail.anchor = .here then ⟨base.anchor, base.names ++ tail.names⟩ else tail

/-- The path without its last name; a path without names is its own parent. -/
def parent (path : Path) : Path :=
  ⟨path.anchor, path.names.dropLast⟩

/-- The path from `base` to `path`, if `path` starts with all of `base`. -/
def relativeTo? (path base : Path) : Option Path :=
  if path.anchor = base.anchor then
    (base.names.isPrefixOf? path.names).map fun rest => ⟨.here, rest⟩
  else none

/-- The names are compared one after another, by code points. -/
def namesLe : List Wide → List Wide → Bool
  | [], _ => true
  | _ :: _, [] => false
  | a :: as, b :: bs => if a = b then namesLe as bs else decide (a < b)

/-- Whether the text has a character that no path can have. -/
def hasNul (path : Path) : Bool :=
  path.names.any fun name => name.any (·.number == 0)

/-- Whether a half stands for a byte. -/
def isByteHalf (index : Fin 0x800) : Bool :=
  0x480 ≤ index.val && index.val < 0x500

def encodeFault? (path : Path) : Option Text.Utf8.EncodeFault :=
  Text.Utf8.encodeFault? isByteHalf 0 path.text

def byteSize (text : Wide) : Nat :=
  text.foldl (fun size point => size + (point.char?.map Char.utf8Size).getD 1) 0

/-- The longest text of a path that can be followed, counted in bytes. -/
def maxBytes : Nat :=
  4095

def isTooLong (path : Path) : Bool :=
  decide (maxBytes < byteSize path.text)

end Path

end EndpointDocs
