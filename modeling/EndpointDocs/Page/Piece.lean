import EndpointDocs.Html.Basic

/-!
Pages as lists of pieces: the fixed text of the page, texts to be shown, and fragments that are HTML
already.
-/
namespace EndpointDocs.Page

inductive Piece where
  | fixed (source : String)
  | shown (text : String)
  | html (fragment : Html)
  deriving DecidableEq, Repr

def Piece.source : Piece → String
  | .fixed source => source
  | .shown text => (Html.escape text).source
  | .html fragment => fragment.source

/-- The page, which ends with a line feed. -/
def finish (body : Wide) : Wide :=
  if body.getLast? = some (.char '\n') then body else body ++ "\n"

def source (pieces : List Piece) : String :=
  String.join (pieces.map Piece.source)

end EndpointDocs.Page
