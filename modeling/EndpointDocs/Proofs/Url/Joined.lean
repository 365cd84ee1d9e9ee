import EndpointDocs.Proofs.Text.Cut
import EndpointDocs.Proofs.Text.Pieces
import EndpointDocs.Proofs.Text.Trim
import EndpointDocs.Proofs.Url.Outline
import Mathlib.Data.List.Basic

/-!
The parts of URLs that are put together. A path is read segment by segment, a query parameter by
parameter and a request object member by member, so joining adds parts to parts. Blanks at the ends
of a URL, a path or a query change nothing.
-/
namespace EndpointDocs.DocumentedUrl

def segmentOutline (segment : List Char) : List UrlPart :=
  if segment.contains ':' then [.placeholder (placeholder segment)] else []

def memberOutline (piece : List Char) : List UrlPart :=
  ((objectTerm? piece).map UrlPart.member).toList

theorem pathOutline_eq (path : List Char) :
    pathOutline path = Text.readPieces '/' segmentOutline path := by
  rw [pathOutline, Text.readPieces]
  induction path.splitOn '/' with
  | nil => rfl
  | cons segment segments ih =>
    rw [List.flatMap_cons, ← ih, segmentOutline, List.filter_cons]
    cases segment.contains ':' <;> rfl

theorem queryOutline_eq (query : List Char) :
    queryOutline query = Text.readPieces '&' parameterOutline query :=
  rfl

/-- A parameter with a request object is read member by member. -/
theorem parameterOutline_object {parameter object : List Char}
    (marked : Text.trimChars parameter = objectMark ++ object) :
    parameterOutline parameter = Text.readPieces ',' memberOutline object := by
  have found := List.isPrefixOf?_eq_some_iff_append_eq.2 marked.symm
  rw [parameterOutline, found, Text.readPieces]
  exact List.filterMap_eq_flatMap_toList _ _

/-- The value of any other parameter is a placeholder if it has a colon. -/
theorem parameterOutline_value {parameter : List Char}
    (unmarked : ¬ objectMark <+: Text.trimChars parameter) :
    parameterOutline parameter = segmentOutline (Text.behind '=' (Text.trimChars parameter)) := by
  have missing : objectMark.isPrefixOf? (Text.trimChars parameter) = none := by
    cases found : objectMark.isPrefixOf? (Text.trimChars parameter) with
    | none => rfl
    | some object =>
      exact absurd ⟨object, List.isPrefixOf?_eq_some_iff_append_eq.1 found⟩ unmarked
  rw [parameterOutline, missing]
  rfl

theorem parameterOutline_congr {first second : List Char}
    (same : Text.trimChars first = Text.trimChars second) :
    parameterOutline first = parameterOutline second := by
  rw [parameterOutline, parameterOutline, same]

theorem memberOutline_of_not_mem {piece : List Char} (plain : ':' ∉ piece) :
    memberOutline piece = [] := by
  simp [memberOutline, objectTerm?, plain]

theorem segmentOutline_of_not_mem {segment : List Char} (plain : ':' ∉ segment) :
    segmentOutline segment = [] := by
  simp [segmentOutline, plain]

section Blanks

variable {c : Char} (blank : Text.isBlank c = true)

include blank

theorem ne_of_isBlank {mark : Char} (solid : Text.isBlank mark = false) : c ≠ mark := by
  rintro rfl
  rw [solid] at blank
  cases blank

theorem segmentOutline_cons (segment : List Char) :
    segmentOutline (c :: segment) = segmentOutline segment := by
  have other : c ≠ ':' := ne_of_isBlank blank (by decide)
  have name : placeholder (c :: segment) = placeholder segment := by
    rw [placeholder, List.filter_cons_of_pos (by simpa using other), Text.trimChars,
      Text.trimBy_cons_of_pos _ blank, placeholder, Text.trimChars]
  simp [segmentOutline, name, Ne.symm other]

theorem segmentOutline_concat (segment : List Char) :
    segmentOutline (segment ++ [c]) = segmentOutline segment := by
  have other : c ≠ ':' := ne_of_isBlank blank (by decide)
  have name : placeholder (segment ++ [c]) = placeholder segment := by
    rw [placeholder, List.filter_append, List.filter_cons_of_pos (by simpa using other),
      List.filter_nil, Text.trimChars, Text.trimBy_concat_of_pos _ blank, placeholder,
      Text.trimChars]
  simp [segmentOutline, name, Ne.symm other]

theorem pathOutline_cons (path : List Char) : pathOutline (c :: path) = pathOutline path := by
  rw [pathOutline_eq, pathOutline_eq]
  exact Text.readPieces_cons (ne_of_isBlank blank (by decide)) (segmentOutline_cons blank) path

theorem pathOutline_concat (path : List Char) : pathOutline (path ++ [c]) = pathOutline path := by
  rw [pathOutline_eq, pathOutline_eq]
  exact Text.readPieces_concat (ne_of_isBlank blank (by decide)) (segmentOutline_concat blank) path

theorem parameterOutline_cons (parameter : List Char) :
    parameterOutline (c :: parameter) = parameterOutline parameter :=
  parameterOutline_congr (Text.trimBy_cons_of_pos parameter blank)

theorem parameterOutline_concat (parameter : List Char) :
    parameterOutline (parameter ++ [c]) = parameterOutline parameter :=
  parameterOutline_congr (Text.trimBy_concat_of_pos parameter blank)

theorem queryOutline_cons (query : List Char) : queryOutline (c :: query) = queryOutline query :=
  Text.readPieces_cons (ne_of_isBlank blank (by decide)) (parameterOutline_cons blank) query

theorem queryOutline_concat (query : List Char) :
    queryOutline (query ++ [c]) = queryOutline query :=
  Text.readPieces_concat (ne_of_isBlank blank (by decide)) (parameterOutline_concat blank) query

end Blanks

/-- A URL without a question mark is a path. -/
theorem outline_path {path : List Char} (noQuery : '?' ∉ path) :
    outline path = pathOutline path := by
  simp [outline, Text.before_of_not_mem noQuery, noQuery]

/-- The first question mark divides the path from the query. -/
theorem outline_query {path : List Char} (noQuery : '?' ∉ path) (query : List Char) :
    outline (path ++ '?' :: query) = pathOutline path ++ queryOutline query := by
  simp [outline, Text.before_append noQuery, Text.behind_append noQuery]

/-- Every URL is a path, or a path with a query behind it. -/
theorem path_or_query (url : List Char) :
    '?' ∉ url ∨ ∃ path query, '?' ∉ path ∧ url = path ++ '?' :: query := by
  by_cases divided : '?' ∈ url
  · obtain ⟨path, query, shape, noQuery⟩ := List.eq_append_cons_of_mem divided
    exact .inr ⟨path, query, noQuery, shape⟩
  · exact .inl divided

theorem outline_cons {c : Char} (blank : Text.isBlank c = true) (url : List Char) :
    outline (c :: url) = outline url := by
  have other : '?' ≠ c := Ne.symm (ne_of_isBlank blank (by decide))
  rcases path_or_query url with noQuery | ⟨path, query, noQuery, rfl⟩
  · rw [outline_path (by simp [other, noQuery]), outline_path noQuery, pathOutline_cons blank]
  · rw [← List.cons_append, outline_query (by simp [other, noQuery]), outline_query noQuery,
      pathOutline_cons blank]

theorem outline_concat {c : Char} (blank : Text.isBlank c = true) (url : List Char) :
    outline (url ++ [c]) = outline url := by
  have other : '?' ≠ c := Ne.symm (ne_of_isBlank blank (by decide))
  rcases path_or_query url with noQuery | ⟨path, query, noQuery, rfl⟩
  · rw [outline_path (by simp [other, noQuery]), outline_path noQuery, pathOutline_concat blank]
  · rw [List.append_assoc, List.cons_append, outline_query noQuery, outline_query noQuery,
      queryOutline_concat blank]

/-- Blanks at the ends of a URL do not change its parts. -/
theorem outline_trimChars (url : List Char) : outline (Text.trimChars url) = outline url :=
  Text.eq_of_trimBy outline (fun _ url blank => outline_cons blank url)
    (fun _ url blank => outline_concat blank url) url

end EndpointDocs.DocumentedUrl
