import EndpointDocs.Glossary.Basic
import EndpointDocs.Glossary.Token
import EndpointDocs.Html.Basic

/-!
Running text with its glossary terms marked. A colon takes the token after it: a term is marked, any
other token is shown without the colon. A colon at the very end is kept. Tokens are joined by single
blanks.
-/
namespace EndpointDocs.Glossary

/-- A token as it is shown. -/
inductive Piece where
  | word (text : String)
  | term (text : String)
  deriving DecidableEq, Repr

/-- The pieces of a list of tokens, and whether a colon is left at the end. -/
def pieces (isTerm : String → Bool) : List String → List Piece × Bool
  | [] => ([], false)
  | [token] => if token = ":" then ([], true) else ([.word token], false)
  | token :: next :: rest =>
    if token = ":" then
      let (shown, colon) := pieces isTerm rest
      ((if isTerm next then .term next else .word next) :: shown, colon)
    else
      let (shown, colon) := pieces isTerm (next :: rest)
      (.word token :: shown, colon)

def Piece.html : Piece → Html
  | .word text => Html.escape text
  | .term text => ⟨"<span class=\"glossary\">"⟩ ++ Html.escape text ++ ⟨"</span>"⟩

def highlight (glossary : Glossary) (text : String) : Html :=
  let (shown, colon) := pieces glossary.isTerm (Token.tokens text)
  ⟨" ".intercalate (shown.map (·.html.source)) ++ (if colon then ":" else "")⟩

end EndpointDocs.Glossary
