import EndpointDocs.Proofs.Url.Joined

/-!
The parts of any text that is read as a URL, however malformed. Each part is charged to a colon of
its own, since every piece of the text that gives a part has one. Names of parts have neither colons
nor spaces at their ends. The first question mark divides the parts, slashes divide those of a path
and ampersands those of a query, whatever blanks stand around them.
-/
namespace EndpointDocs

/-- The term of a part, whatever explains it. -/
def UrlPart.name : UrlPart → List Char
  | .placeholder name => name
  | .member term => term.term.toList

theorem UrlPart.toList_term_explain (glossary : Glossary) (part : UrlPart) :
    (part.explain glossary).term.toList = part.name := by
  cases part with
  | placeholder name => exact String.toList_ofList
  | member term => rfl

namespace DocumentedUrl

/-- A name without colons, and without a space or a tab at either end. -/
structure IsClean (name : List Char) : Prop where
  noColon : ':' ∉ name
  bare : ∀ edge ∈ [' ', '\t'], name.head? ≠ some edge ∧ name.getLast? ≠ some edge

theorem IsClean.of_isTrimmed {p : Char → Bool} {name : List Char} (noColon : ':' ∉ name)
    (trimmed : Text.IsTrimmed p name) (space : p ' ' = true) (tab : p '\t' = true) :
    IsClean name where
  noColon := noColon
  bare := List.forall_mem_cons.2 ⟨trimmed.ends_ne space,
    List.forall_mem_singleton.2 (trimmed.ends_ne tab)⟩

theorem isClean_placeholder (text : List Char) : IsClean (placeholder text) := by
  refine .of_isTrimmed (fun listed => ?_) (Text.trimBy_isTrimmed Text.isBlank _) rfl rfl
  have kept := List.mem_filter.1 (Text.mem_of_mem_trimBy listed)
  simp at kept

theorem isClean_of_objectTerm? {piece : List Char} {term : UrlTerm}
    (found : objectTerm? piece = some term) : IsClean term.term.toList := by
  rw [objectTerm?] at found
  split at found
  · cases found
    rw [String.toList_ofList]
    refine .of_isTrimmed (fun listed => ?_) (Text.trimBy_isTrimmed isObjectPunctuation _)
      (by decide) (by decide)
    exact Text.not_mem_before ':' piece (Text.mem_of_mem_trimBy listed)
  · cases found

theorem segmentOutline_cases (segment : List Char) :
    (':' ∈ segment ∧ segmentOutline segment = [.placeholder (placeholder segment)]) ∨
      segmentOutline segment = [] := by
  by_cases marked : ':' ∈ segment
  · exact .inl ⟨marked, by simp [segmentOutline, marked]⟩
  · exact .inr (segmentOutline_of_not_mem marked)

/-- A parameter is read member by member or as one value, and what is read is a part of it. -/
theorem parameterOutline_cases (parameter : List Char) :
    ∃ inside, inside.Sublist parameter ∧
      (parameterOutline parameter = Text.readPieces ',' memberOutline inside ∨
        parameterOutline parameter = segmentOutline inside) := by
  have trimmed := Text.trimBy_sublist Text.isBlank parameter
  by_cases marked : objectMark <+: Text.trimChars parameter
  · obtain ⟨object, shape⟩ := marked
    refine ⟨object, ?_, .inl (parameterOutline_object shape.symm)⟩
    rw [Text.trimChars] at shape
    rw [← shape] at trimmed
    exact (List.sublist_append_right _ _).trans trimmed
  · exact ⟨_, (Text.behind_sublist '=' _).trans trimmed, .inr (parameterOutline_value marked)⟩

section Names

theorem isClean_segmentOutline {segment : List Char} {part : UrlPart}
    (listed : part ∈ segmentOutline segment) : IsClean part.name := by
  rcases segmentOutline_cases segment with ⟨_, read⟩ | nothing
  · rw [read, List.mem_singleton] at listed
    subst listed
    exact isClean_placeholder segment
  · rw [nothing] at listed
    cases listed

theorem isClean_memberOutline {piece : List Char} {part : UrlPart}
    (listed : part ∈ memberOutline piece) : IsClean part.name := by
  rw [memberOutline, Option.mem_toList, Option.map_eq_some_iff] at listed
  obtain ⟨term, found, rfl⟩ := listed
  exact isClean_of_objectTerm? found

theorem isClean_parameterOutline {parameter : List Char} {part : UrlPart}
    (listed : part ∈ parameterOutline parameter) : IsClean part.name := by
  obtain ⟨inside, _, read | read⟩ := parameterOutline_cases parameter
  · rw [read] at listed
    obtain ⟨piece, _, inPiece⟩ := List.mem_flatMap.1 listed
    exact isClean_memberOutline inPiece
  · rw [read] at listed
    exact isClean_segmentOutline listed

/-- Every part of a URL has a name without colons and without blanks at its ends. -/
theorem isClean_outline {url : List Char} {part : UrlPart} (listed : part ∈ outline url) :
    IsClean part.name := by
  have ofPath {path : List Char} (inPath : part ∈ pathOutline path) : IsClean part.name := by
    rw [pathOutline_eq] at inPath
    obtain ⟨segment, _, inSegment⟩ := List.mem_flatMap.1 inPath
    exact isClean_segmentOutline inSegment
  rcases path_or_query url with noQuery | ⟨path, query, noQuery, rfl⟩
  · rw [outline_path noQuery] at listed
    exact ofPath listed
  · rw [outline_query noQuery, List.mem_append] at listed
    rcases listed with inPath | inQuery
    · exact ofPath inPath
    · obtain ⟨parameter, _, inParameter⟩ := List.mem_flatMap.1 inQuery
      exact isClean_parameterOutline inParameter

end Names

section Charges

theorem length_segmentOutline_le (segment : List Char) :
    (segmentOutline segment).length ≤ segment.count ':' := by
  rcases segmentOutline_cases segment with ⟨marked, read⟩ | nothing
  · rw [read]
    exact List.count_pos_iff.2 marked
  · rw [nothing]
    exact Nat.zero_le _

theorem length_memberOutline_le (piece : List Char) :
    (memberOutline piece).length ≤ piece.count ':' := by
  by_cases marked : ':' ∈ piece
  · have one : (memberOutline piece).length ≤ 1 := by
      rw [memberOutline]
      exact Option.length_toList_le
    exact Nat.le_trans one (List.count_pos_iff.2 marked)
  · rw [memberOutline_of_not_mem marked]
    exact Nat.zero_le _

theorem length_parameterOutline_le (parameter : List Char) :
    (parameterOutline parameter).length ≤ parameter.count ':' := by
  obtain ⟨inside, sublist, read | read⟩ := parameterOutline_cases parameter
  · rw [read]
    exact Nat.le_trans (Text.length_readPieces_le_count length_memberOutline_le inside)
      (sublist.count_le ':')
  · rw [read]
    exact Nat.le_trans (length_segmentOutline_le inside) (sublist.count_le ':')

theorem length_pathOutline_le (path : List Char) : (pathOutline path).length ≤ path.count ':' := by
  rw [pathOutline_eq]
  exact Text.length_readPieces_le_count length_segmentOutline_le path

theorem length_queryOutline_le (query : List Char) :
    (queryOutline query).length ≤ query.count ':' :=
  Text.length_readPieces_le_count length_parameterOutline_le query

/-- Every part has a colon of its own. -/
theorem length_outline_le (url : List Char) : (outline url).length ≤ url.count ':' := by
  rcases path_or_query url with noQuery | ⟨path, query, noQuery, rfl⟩
  · rw [outline_path noQuery]
    exact length_pathOutline_le url
  · have pathBound := length_pathOutline_le path
    have queryBound := length_queryOutline_le query
    have mark : query.count ':' ≤ ('?' :: query).count ':' := List.count_le_count_cons
    rw [outline_query noQuery, List.length_append, List.count_append]
    omega

end Charges

section Joins

theorem pathOutline_append (first second : List Char) :
    pathOutline (first ++ '/' :: second) = pathOutline first ++ pathOutline second := by
  rw [pathOutline_eq, Text.readPieces_append, ← pathOutline_eq, ← pathOutline_eq]

theorem queryOutline_append (first second : List Char) :
    queryOutline (first ++ '&' :: second) = queryOutline first ++ queryOutline second :=
  Text.readPieces_append first second

theorem outline_behind_mark (query : List Char) : outline ('?' :: query) = queryOutline query := by
  have divided := outline_query (List.not_mem_nil : '?' ∉ []) query
  simpa [pathOutline] using divided

/-- The parts of a text are those of the path before the first question mark and those of what is
left from there. -/
theorem outline_divided (url : List Char) :
    outline url = outline (Text.before '?' url) ++ outline (url.dropWhile (· != '?')) := by
  rcases path_or_query url with noQuery | ⟨path, query, noQuery, rfl⟩
  · have nothing := Text.dropWhile_append_of_not_mem noQuery []
    rw [List.append_nil] at nothing
    rw [Text.before_of_not_mem noQuery, nothing]
    exact (List.append_nil _).symm
  · have rest : (path ++ '?' :: query).dropWhile (· != '?') = '?' :: query :=
      Text.dropWhile_append_of_not_mem noQuery ('?' :: query)
    rw [outline_query noQuery, Text.before_append noQuery, rest, outline_path noQuery,
      outline_behind_mark]

theorem parts_parse_eq (glossary : Glossary) (text : String) :
    (parse glossary text).parts = (outline text.toList).map (UrlPart.explain glossary) := by
  rw [parts_parse, parse, String.toList_ofList, outline_trimChars]

end Joins

/-- What holds of any text that is read as a URL. The term of a part has no colon and no space or
tab at its ends. There are at most as many parts as colons. The parts come from the text before the
first question mark and from the rest; those of two paths joined by a slash are the parts of both,
and so are those of two queries joined by an ampersand. A single segment gives a placeholder if it
has a colon, and a single parameter gives its own parts. -/
theorem parts_of_any_text (glossary : Glossary) (text : String) :
    let parts := fun text => (parse glossary text).parts
    let url := Text.trimChars text.toList
    (∀ part ∈ parts text, IsClean part.term.toList) ∧
      (parts text).length ≤ text.toList.count ':' ∧
      parts text = parts (String.ofList (Text.before '?' url)) ++
        parts (String.ofList (url.dropWhile (· != '?'))) ∧
      (∀ first second : String, '?' ∉ first.toList → '?' ∉ second.toList →
        parts (first ++ "/" ++ second) = parts first ++ parts second) ∧
      (∀ first second : String,
        parts ("?" ++ (first ++ "&" ++ second)) = parts ("?" ++ first) ++ parts ("?" ++ second)) ∧
      (∀ segment : String, '/' ∉ segment.toList → '?' ∉ segment.toList →
        parts segment =
          if ':' ∈ segment.toList then [placeholderTerm glossary segment.toList] else []) ∧
      ∀ parameter : String, '&' ∉ parameter.toList →
        parts ("?" ++ parameter) = parameterTerms glossary parameter.toList := by
  have behindMark (query : String) : ("?" ++ query).toList = '?' :: query.toList := by
    rw [String.toList_append]
    rfl
  simp only [parts_parse_eq, String.toList_ofList]
  refine ⟨?_, ?_, ?_, ?_, ?_, ?_, ?_⟩
  · intro term listed
    obtain ⟨part, inside, rfl⟩ := List.mem_map.1 listed
    rw [UrlPart.toList_term_explain]
    exact isClean_outline inside
  · rw [List.length_map]
    exact length_outline_le text.toList
  · rw [← outline_trimChars, outline_divided, List.map_append]
  -- The laws of joining hold of outlines, so they are carried over from those.
  · intro first second noQuery noQueryEither
    have joined : (first ++ "/" ++ second).toList = first.toList ++ '/' :: second.toList := by
      simp [String.toList_append]
    have noQueryJoined : '?' ∉ first.toList ++ '/' :: second.toList := by
      simp [noQuery, noQueryEither]
    rw [joined, outline_path noQueryJoined, pathOutline_append, List.map_append,
      outline_path noQuery, outline_path noQueryEither]
  · intro first second
    have joined : (first ++ "&" ++ second).toList = first.toList ++ '&' :: second.toList := by
      simp [String.toList_append]
    rw [behindMark, behindMark, behindMark, joined, outline_behind_mark, outline_behind_mark,
      outline_behind_mark, queryOutline_append, List.map_append]
  · intro segment single noQuery
    rw [outline_path noQuery, pathOutline_eq, Text.readPieces_of_not_mem single, segmentOutline]
    by_cases marked : ':' ∈ segment.toList
    · simp [marked, UrlPart.explain, placeholderTerm]
    · simp [marked]
  · intro parameter single
    rw [behindMark, outline_behind_mark, queryOutline_eq, Text.readPieces_of_not_mem single,
      parameterTerms_eq]

end DocumentedUrl

end EndpointDocs
