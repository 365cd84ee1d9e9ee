import EndpointDocs.Url

/-!
The parts of a URL before a glossary explains them: placeholders, and the members of request
objects, which bring their own explanation. Reading a URL is listing these parts and explaining
each by itself.
-/
namespace EndpointDocs

/-- A part of a URL, not yet explained. -/
inductive UrlPart where
  | placeholder (name : List Char)
  | member (term : UrlTerm)
  deriving DecidableEq, Repr

namespace UrlPart

/-- A placeholder is explained by the glossary, a member of a request object by its value. -/
def explain (glossary : Glossary) : UrlPart → UrlTerm
  | .placeholder name =>
    ⟨String.ofList name, glossary.define (String.ofList (Text.lowerChars name))⟩
  | .member term => term

/-- The term of a part does not depend on what explains it. -/
theorem term_explain (first second : Glossary) (part : UrlPart) :
    (part.explain first).term = (part.explain second).term := by
  cases part <;> rfl

end UrlPart

namespace DocumentedUrl

def pathOutline (path : List Char) : List UrlPart :=
  ((path.splitOn '/').filter (·.contains ':')).map fun segment => .placeholder (placeholder segment)

def parameterOutline (parameter : List Char) : List UrlPart :=
  match objectMark.isPrefixOf? (Text.trimChars parameter) with
  | some object => (object.splitOn ',').filterMap fun piece => (objectTerm? piece).map .member
  | none =>
    let value := Text.behind '=' (Text.trimChars parameter)
    if value.contains ':' then [.placeholder (placeholder value)] else []

def queryOutline (query : List Char) : List UrlPart :=
  (query.splitOn '&').flatMap parameterOutline

def outline (url : List Char) : List UrlPart :=
  pathOutline (Text.before '?' url) ++
    if url.contains '?' then queryOutline (Text.behind '?' url) else []

theorem pathTerms_eq (glossary : Glossary) (path : List Char) :
    pathTerms glossary path = (pathOutline path).map (UrlPart.explain glossary) := by
  rw [pathOutline, List.map_map]
  rfl

theorem parameterTerms_eq (glossary : Glossary) (parameter : List Char) :
    parameterTerms glossary parameter =
      (parameterOutline parameter).map (UrlPart.explain glossary) := by
  simp only [parameterTerms, parameterOutline]
  cases objectMark.isPrefixOf? (Text.trimChars parameter) with
  | some object =>
    simp only [List.map_filterMap]
    congr 1
    funext piece
    cases objectTerm? piece <;> rfl
  | none =>
    simp only
    split <;> rfl

theorem queryTerms_eq (glossary : Glossary) (query : List Char) :
    queryTerms glossary query = (queryOutline query).map (UrlPart.explain glossary) := by
  rw [queryTerms, queryOutline, List.map_flatMap]
  congr 1
  funext parameter
  exact parameterTerms_eq glossary parameter

/-- The parts of a URL that was read are those of its text, each explained by itself. -/
theorem parts_parse (glossary : Glossary) (text : String) :
    (parse glossary text).parts =
      (outline (parse glossary text).url.toList).map (UrlPart.explain glossary) := by
  simp only [parse, outline, String.toList_ofList, List.map_append, pathTerms_eq]
  congr 1
  split
  · exact queryTerms_eq glossary _
  · rfl

end DocumentedUrl

end EndpointDocs
