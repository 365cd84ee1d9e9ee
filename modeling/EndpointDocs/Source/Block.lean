import EndpointDocs.Files.Tree
import EndpointDocs.Text.Blank
import EndpointDocs.Text.Lines
import EndpointDocs.Text.Utf8

/-!
Annotated blocks of a source file. A line is a comment from the first comment marker on. A block is
made of the lines between a comment that starts with the opening sentinel and the next comment that
starts with the closing one; a block that is not closed is dropped.
-/
namespace EndpointDocs

/-- How blocks are marked in sources. -/
structure Sentinels where
  marker : Wide
  opening : Wide
  closing : Wide
  deriving DecidableEq, Repr

/-- The marks used unless others are configured. -/
def Sentinels.standard : Sentinels :=
  ⟨"#", "wsdoc \x7b", "wsdoc \x7d"⟩

inductive SourceError where
  | file (error : FileError)
  | undecodable (fault : Text.Utf8.Fault)
  /-- No line can be cut at an empty comment marker. -/
  | emptyMarker
  deriving DecidableEq, Repr

def SourceError.message : SourceError → String
  | .file error => error.message
  | .undecodable fault => fault.message
  | .emptyMarker => "empty separator"

def SourceError.refusal? : SourceError → Option FileError
  | .file error => error.refusal?
  | .undecodable _ | .emptyMarker => none

namespace Block

/-- Whether a line has a comment whose text starts with `target`. -/
def isComment (marker target : Wide) (line : String) : Bool :=
  match marker.after? line.toList with
  | some comment => target.starts (Text.trimChars comment)
  | none => false

/-- Whether a line has a comment whose text starts with `target`; an empty marker is refused. -/
def isCommentChecked (marker target : Wide) (line : String) : Except SourceError Bool :=
  if marker.isEmpty then .error .emptyMarker else .ok (isComment marker target line)

/-- The blocks of the lines to come, when `held` are the lines, newest first, of a block that is
open. -/
def collect (isOpening isClosing : String → Bool) :
    Option (List String) → List String → List (List String)
  | _, [] => []
  | none, line :: rest =>
    collect isOpening isClosing (if isOpening line then some [] else none) rest
  | some held, line :: rest =>
    if isClosing line then held.reverse :: collect isOpening isClosing none rest
    else collect isOpening isClosing (some (line :: held)) rest

def extract (sentinels : Sentinels) (lines : List String) : List (List String) :=
  collect (isComment sentinels.marker sentinels.opening)
    (isComment sentinels.marker sentinels.closing) none lines

/-- The blocks of a list of lines; an empty marker is refused as soon as there is a line. -/
def extractChecked (sentinels : Sentinels) (lines : List String) :
    Except SourceError (List (List String)) :=
  if sentinels.marker.isEmpty && !lines.isEmpty then .error .emptyMarker
  else .ok (extract sentinels lines)

def linesOfBytes (bytes : List UInt8) : Except SourceError (List String) :=
  match Text.Utf8.decode bytes with
  | .error fault => .error (.undecodable fault)
  | .ok text => .ok ((Text.linesOf (Text.unifyBreaks text)).map String.ofList)

def ofBytes (sentinels : Sentinels) (bytes : List UInt8) :
    Except SourceError (List (List String)) :=
  match linesOfBytes bytes with
  | .error error => .error error
  | .ok lines => extractChecked sentinels lines

def ofFile (tree : Tree) (sentinels : Sentinels) (path : Path) :
    Except SourceError (List (List String)) :=
  match tree.read path with
  | .error error => .error (.file error)
  | .ok bytes => ofBytes sentinels bytes

end Block

end EndpointDocs
