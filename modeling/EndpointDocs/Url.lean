import EndpointDocs.Glossary.Basic
import EndpointDocs.Text.Blank

/-!
Documented URLs. A path segment with a colon, and a query parameter whose value has one, is a
placeholder, and its definition comes from the glossary. A parameter that holds a request object
lists the object's keys with their values as written.
-/
namespace EndpointDocs

structure UrlTerm where
  term : String
  definition : String
  deriving DecidableEq, Repr

/-- A URL as written, and its parts: those of the path, then those of the query. -/
structure DocumentedUrl where
  url : String
  parts : List UrlTerm
  deriving DecidableEq, Repr

namespace DocumentedUrl

/-- The name of a placeholder: its text without colons and without blanks at its ends. -/
def placeholder (text : List Char) : List Char :=
  Text.trimChars (text.filter (· != ':'))

/-- A placeholder with its definition, which is looked up in lower case. -/
def placeholderTerm (glossary : Glossary) (text : List Char) : UrlTerm :=
  let term := placeholder text
  ⟨String.ofList term, glossary.define (String.ofList (Text.lowerChars term))⟩

def pathTerms (glossary : Glossary) (path : List Char) : List UrlTerm :=
  ((path.splitOn '/').filter (·.contains ':')).map (placeholderTerm glossary)

/-- What a query parameter with a request object starts with. -/
def objectMark : List Char :=
  "request=\x7b".toList

/-- The characters around the keys and values of a request object. -/
def isObjectPunctuation (c : Char) : Bool :=
  "\"'\x7b\x7d<> \t".toList.contains c

/-- A key of a request object with its value. -/
def objectTerm? (piece : List Char) : Option UrlTerm :=
  let key := Text.trimBy isObjectPunctuation (Text.before ':' piece)
  if piece.contains ':' && !key.isEmpty then
    let value := Text.trimBy isObjectPunctuation (Text.behind ':' piece)
    some ⟨String.ofList key, String.ofList value⟩
  else none

def parameterTerms (glossary : Glossary) (parameter : List Char) : List UrlTerm :=
  let parameter := Text.trimChars parameter
  match objectMark.isPrefixOf? parameter with
  | some object => (object.splitOn ',').filterMap objectTerm?
  -- any other parameter has a placeholder for its value, or says nothing
  | none =>
    let value := Text.behind '=' parameter
    if value.contains ':' then [placeholderTerm glossary value] else []

def queryTerms (glossary : Glossary) (query : List Char) : List UrlTerm :=
  (query.splitOn '&').flatMap (parameterTerms glossary)

/-- Reads a URL; the first question mark divides the path from the query. -/
def parse (glossary : Glossary) (text : String) : DocumentedUrl :=
  let url := Text.trimChars text.toList
  let query := if url.contains '?' then queryTerms glossary (Text.behind '?' url) else []
  ⟨String.ofList url, pathTerms glossary (Text.before '?' url) ++ query⟩

end DocumentedUrl

end EndpointDocs
