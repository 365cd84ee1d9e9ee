import EndpointDocs.Proofs.Url.Joined

/-!
Writing a documented URL and reading it back. A URL is written from the segments of its path and the
parameters of its query, with spaces wherever two of them meet and at the ends. Its parts are then
the placeholders and the members of request objects that were written, in order and with nothing
added, whatever separators the values of members contain.
-/
namespace EndpointDocs

namespace Text

/-- Whether a text has none of the characters of `marks`. -/
def isFree (marks : List Char) (text : String) : Bool :=
  text.toList.all fun c => !marks.contains c

theorem not_mem_of_isFree {marks : List Char} {text : String} (free : isFree marks text = true)
    {c : Char} (listed : marks.contains c = true) : c ∉ text.toList := by
  intro inside
  have outside := List.all_eq_true.1 free c inside
  rw [listed] at outside
  cases outside

theorem not_mem_intercalate {c mark : Char} (other : c ≠ mark) {texts : List (List Char)}
    (absent : ∀ text ∈ texts, c ∉ text) : c ∉ [mark].intercalate texts := by
  induction texts with
  | nil => simp
  | cons text texts ih =>
    obtain ⟨here, later⟩ := List.forall_mem_cons.1 absent
    cases texts with
    | nil => simpa using here
    | cons next texts =>
      rw [List.intercalate_cons_cons]
      simpa [other, here] using ih later

end Text

namespace DocumentedUrl

/-- The name of a placeholder: it says something, has no blanks at its ends, and no separators. -/
structure Name where
  text : String
  nonempty : text ≠ ""
  trimmed : Text.IsTrimmed Text.isBlank text.toList
  free : Text.isFree ['/', '?', ':', '&'] text = true

inductive Segment where
  | fixed (text : String) (free : Text.isFree ['/', '?', ':'] text = true)
  | placeholder (name : Name)

/-- A member of a request object. The value may have colons, question marks and slashes. -/
structure Member where
  key : String
  value : String
  nonempty : key ≠ ""
  keyFree : Text.isFree [':', ',', '&'] key = true
  valueFree : Text.isFree [',', '&'] value = true
  keyBare : Text.IsTrimmed isObjectPunctuation key.toList
  valueBare : Text.IsTrimmed isObjectPunctuation value.toList

/-- A parameter of a query. One without a colon says nothing, even if it starts like a request
object. -/
inductive Parameter where
  | fixed (text : String) (free : Text.isFree ['&', ':'] text = true)
  | placeholder (key : String) (name : Name) (free : Text.isFree ['=', '&'] key = true)
  | object (members : List Member)

/-- Something with spaces in front of it and behind it. -/
structure Spaced (α : Type) where
  before : Nat
  item : α
  after : Nat

/-- The segments of a path, the parameters of a query if there is one, and the spaces around all of
them. -/
structure Written where
  path : Spaced (List (Spaced Segment))
  query : Option (Spaced (List (Spaced Parameter)))

def Name.marked (name : Name) : List Char :=
  ':' :: name.text.toList

def quoted (text : String) : List Char :=
  '"' :: (text.toList ++ ['"'])

def Segment.source : Segment → List Char
  | .fixed text _ => text.toList
  | .placeholder name => name.marked

def Member.source (member : Member) : List Char :=
  quoted member.key ++ ':' :: quoted member.value

def Parameter.source : Parameter → List Char
  | .fixed text _ => text.toList
  | .placeholder key name _ => key.toList ++ '=' :: name.marked
  | .object members =>
    objectMark ++ ([','].intercalate (members.map Member.source) ++ ['\x7d'])

def Spaced.source {α : Type} (write : α → List Char) (spaced : Spaced α) : List Char :=
  List.replicate spaced.before ' ' ++ (write spaced.item ++ List.replicate spaced.after ' ')

def pathSource (segments : List (Spaced Segment)) : List Char :=
  ['/'].intercalate (segments.map (Spaced.source Segment.source))

def querySource (parameters : List (Spaced Parameter)) : List Char :=
  ['&'].intercalate (parameters.map (Spaced.source Parameter.source))

def Written.text (written : Written) : String :=
  String.ofList <| written.path.source pathSource ++
    match written.query with
    | some query => '?' :: query.source querySource
    | none => []

def Segment.parts : Segment → List UrlPart
  | .fixed _ _ => []
  | .placeholder name => [.placeholder name.text.toList]

def Parameter.parts : Parameter → List UrlPart
  | .fixed _ _ => []
  | .placeholder _ name _ => [.placeholder name.text.toList]
  | .object members => members.map fun member => .member ⟨member.key, member.value⟩

/-- The parts that were written, those of the path first. -/
def Written.parts (written : Written) : List UrlPart :=
  written.path.item.flatMap (·.item.parts) ++
    match written.query with
    | some query => query.item.flatMap (·.item.parts)
    | none => []

/-- What does not depend on blanks at the ends does not depend on the spaces around a text. -/
theorem Spaced.eq_of_source {α β : Type} (view : List Char → β)
    (front : ∀ c text, Text.isBlank c = true → view (c :: text) = view text)
    (back : ∀ c text, Text.isBlank c = true → view (text ++ [c]) = view text)
    (write : α → List Char) (spaced : Spaced α) :
    view (spaced.source write) = view (write spaced.item) := by
  obtain ⟨before, item, after⟩ := spaced
  have space : Text.isBlank ' ' = true := by decide
  have behind (count : Nat) :
      view (write item ++ List.replicate count ' ') = view (write item) := by
    induction count with
    | zero => simp
    | succ count ih =>
      rw [List.replicate_succ', ← List.append_assoc, back ' ' _ space, ih]
  simp only [source]
  induction before with
  | zero => exact behind after
  | succ before ih => rw [List.replicate_succ, List.cons_append, front ' ' _ space, ih]

theorem Spaced.not_mem_source {α : Type} {write : α → List Char} {c : Char} (solid : c ≠ ' ')
    {spaced : Spaced α} (absent : c ∉ write spaced.item) : c ∉ spaced.source write := by
  simp [source, absent, solid]

theorem Name.not_mem (name : Name) {c : Char} (listed : ['/', '?', ':', '&'].contains c = true) :
    c ∉ name.text.toList :=
  Text.not_mem_of_isFree name.free listed

/-- A placeholder is read as its name. -/
theorem segmentOutline_marked (name : Name) :
    segmentOutline name.marked = [.placeholder name.text.toList] := by
  have kept : name.text.toList.filter (· != ':') = name.text.toList := by
    rw [List.filter_eq_self]
    rintro c inside
    have other : c ≠ ':' := fun same => name.not_mem (by decide) (same ▸ inside)
    simpa using other
  have read : placeholder name.marked = name.text.toList := by
    rw [placeholder, Name.marked, List.filter_cons_of_neg (by simp), kept, Text.trimChars,
      Text.trimBy_of_isTrimmed name.trimmed]
  have marked : name.marked.contains ':' = true := by simp [Name.marked]
  rw [segmentOutline, marked, if_pos rfl, read]

theorem Segment.not_mem_source (segment : Segment) {c : Char}
    (listed : ['/', '?'].contains c = true) : c ∉ segment.source := by
  have cases : c = '/' ∨ c = '?' := by simpa using listed
  cases segment with
  | fixed text free =>
    rcases cases with rfl | rfl <;> exact Text.not_mem_of_isFree free (by decide)
  | placeholder name =>
    rcases cases with rfl | rfl <;> simpa [source, Name.marked] using name.not_mem (by decide)

theorem pathOutline_segment (segment : Segment) :
    pathOutline segment.source = segment.parts := by
  rw [pathOutline_eq, Text.readPieces_of_not_mem (segment.not_mem_source (by decide))]
  cases segment with
  | fixed text free => exact segmentOutline_of_not_mem (Text.not_mem_of_isFree free (by decide))
  | placeholder name => exact segmentOutline_marked name

/-- The parts of a path that was written. -/
theorem pathOutline_pathSource (segments : List (Spaced Segment)) :
    pathOutline (pathSource segments) = segments.flatMap (·.item.parts) := by
  have alone (segment : Spaced Segment) :
      pathOutline (segment.source Segment.source) = segment.item.parts := by
    rw [Spaced.eq_of_source pathOutline (fun _ path blank => pathOutline_cons blank path)
      (fun _ path blank => pathOutline_concat blank path), pathOutline_segment]
  rw [pathOutline_eq, pathSource, Text.readPieces_intercalate rfl, List.flatMap_map]
  simp only [← pathOutline_eq, alone]

/-- A brace at its end changes no member. -/
theorem memberOutline_concat_brace (piece : List Char) :
    memberOutline (piece ++ ['\x7d']) = memberOutline piece := by
  by_cases divided : ':' ∈ piece
  · obtain ⟨key, value, rfl, undivided⟩ := List.eq_append_cons_of_mem divided
    have brace : isObjectPunctuation '\x7d' = true := by decide
    simp only [memberOutline, objectTerm?, List.append_assoc, List.cons_append,
      Text.before_append undivided, Text.behind_append undivided,
      Text.trimBy_concat_of_pos value brace]
    simp
  · rw [memberOutline_of_not_mem divided, memberOutline_of_not_mem (by simpa using divided)]

theorem trimBy_quoted {text : String} (bare : Text.IsTrimmed isObjectPunctuation text.toList) :
    Text.trimBy isObjectPunctuation (quoted text) = text.toList := by
  have quote : isObjectPunctuation '"' = true := by decide
  rw [quoted, Text.trimBy_cons_of_pos _ quote, Text.trimBy_concat_of_pos _ quote,
    Text.trimBy_of_isTrimmed bare]

theorem memberOutline_source (member : Member) :
    memberOutline member.source = [.member ⟨member.key, member.value⟩] := by
  have undivided : ':' ∉ quoted member.key := by
    simpa [quoted] using Text.not_mem_of_isFree member.keyFree (c := ':') (by decide)
  have written : member.key.toList ≠ [] := by simpa using member.nonempty
  simp only [memberOutline, objectTerm?, Member.source, Text.before_append undivided,
    Text.behind_append undivided, trimBy_quoted member.keyBare, trimBy_quoted member.valueBare]
  simp [written]

theorem readPieces_members (members : List Member) :
    Text.readPieces ',' memberOutline
        ([','].intercalate (members.map Member.source) ++ ['\x7d']) =
      members.map fun member => .member ⟨member.key, member.value⟩ := by
  have alone (member : Member) : Text.readPieces ',' memberOutline member.source =
      [.member ⟨member.key, member.value⟩] := by
    have keyFree := Text.not_mem_of_isFree member.keyFree (c := ',') (by decide)
    have valueFree := Text.not_mem_of_isFree member.valueFree (c := ',') (by decide)
    rw [Text.readPieces_of_not_mem (by simp [Member.source, quoted, keyFree, valueFree]),
      memberOutline_source]
  rw [Text.readPieces_concat (by decide) memberOutline_concat_brace,
    Text.readPieces_intercalate rfl, List.flatMap_map, List.map_eq_flatMap]
  simp only [alone]

/-- A value that follows an equals sign starts no request object if it starts with a colon. -/
theorem not_objectMark_assigned {key : List Char} (undivided : '=' ∉ key) (value : List Char) :
    ¬ objectMark <+: key ++ '=' :: ':' :: value := by
  rintro ⟨object, same⟩
  have mark : objectMark ++ object = "request".toList ++ '=' :: '\x7b' :: object := rfl
  have values := congrArg (Text.behind '=') (mark.symm.trans same)
  rw [Text.behind_append (by decide), Text.behind_append undivided] at values
  exact absurd (List.cons.inj values).1 (by decide)

/-- The induction is on the blanks with which the key starts: they are trimmed off, and then the
parameter stands as it is. -/
theorem parameterOutline_assigned (name : Name) {key : List Char} (undivided : '=' ∉ key) :
    parameterOutline (key ++ '=' :: name.marked) = [.placeholder name.text.toList] := by
  have whole {key : List Char} (undivided : '=' ∉ key)
      (start : ∀ c ∈ key.head?, Text.isBlank c = false) :
      parameterOutline (key ++ '=' :: name.marked) = [.placeholder name.text.toList] := by
    have trimmed : Text.IsTrimmed Text.isBlank (key ++ '=' :: name.marked) := by
      have last := List.getLast?_eq_some_getLast (l := name.text.toList)
        (by simpa using name.nonempty)
      refine ⟨?_, fun c final => name.trimmed.stop c ?_⟩
      · cases key with
        | nil =>
          intro c first
          obtain rfl : '=' = c := by simpa using first
          decide
        | cons first key => simpa using start
      · rw [Name.marked, List.getLast?_append, List.getLast?_cons_cons, List.getLast?_cons,
          last] at final
        rw [last]
        simpa using final
    have standing := Text.trimBy_of_isTrimmed trimmed
    rw [parameterOutline_value, Text.trimChars, standing, Text.behind_append undivided,
      segmentOutline_marked]
    rw [Text.trimChars, standing]
    exact not_objectMark_assigned undivided _
  induction key with
  | nil => exact whole undivided (by simp)
  | cons c key ih =>
    cases blank : Text.isBlank c with
    | true =>
      rw [List.cons_append, parameterOutline_cons blank]
      exact ih (fun inside => undivided (List.mem_cons_of_mem _ inside))
    | false => exact whole undivided (by simpa using blank)

theorem parameterOutline_object_source (members : List Member) :
    parameterOutline (Parameter.object members).source = (Parameter.object members).parts := by
  have starts : (Parameter.object members).source.head? = some 'r' := rfl
  have ends : (Parameter.object members).source.getLast? = some '\x7d' := by
    simp [Parameter.source]
  have trimmed : Text.IsTrimmed Text.isBlank (Parameter.object members).source :=
    Text.isTrimmed_of_ends starts ends (by decide) (by decide)
  exact (parameterOutline_object (Text.trimBy_of_isTrimmed trimmed)).trans
    (readPieces_members members)

/-- A parameter without a colon says nothing. -/
theorem parameterOutline_of_not_mem {parameter : List Char} (plain : ':' ∉ parameter) :
    parameterOutline parameter = [] := by
  have trimmed : ':' ∉ Text.trimChars parameter := fun inside =>
    plain (Text.mem_of_mem_trimBy inside)
  by_cases marked : objectMark <+: Text.trimChars parameter
  · obtain ⟨object, marked⟩ := marked
    rw [← marked, List.mem_append, not_or] at trimmed
    rw [parameterOutline_object marked.symm]
    refine Text.readPieces_eq_nil fun piece inside => memberOutline_of_not_mem fun colon => ?_
    exact trimmed.2 (inside ':' colon)
  · rw [parameterOutline_value marked]
    refine segmentOutline_of_not_mem fun colon => trimmed (Text.mem_of_mem_behind colon)

theorem Parameter.not_mem_source (parameter : Parameter) : '&' ∉ parameter.source := by
  cases parameter with
  | fixed text free => exact Text.not_mem_of_isFree free (by decide)
  | placeholder key name free =>
    have keyFree : '&' ∉ key.toList := Text.not_mem_of_isFree free (by decide)
    have nameFree : '&' ∉ name.text.toList := name.not_mem (by decide)
    simp [source, Name.marked, keyFree, nameFree]
  | object members =>
    have mark : '&' ∉ objectMark := by decide
    have inside : '&' ∉ [','].intercalate (members.map Member.source) := by
      apply Text.not_mem_intercalate (by decide)
      simp only [List.forall_mem_map]
      intro member _
      have keyFree := Text.not_mem_of_isFree member.keyFree (c := '&') (by decide)
      have valueFree := Text.not_mem_of_isFree member.valueFree (c := '&') (by decide)
      simp [Member.source, quoted, keyFree, valueFree]
    simp [source, mark, inside]

theorem queryOutline_parameter (parameter : Parameter) :
    queryOutline parameter.source = parameter.parts := by
  rw [queryOutline_eq, Text.readPieces_of_not_mem parameter.not_mem_source]
  cases parameter with
  | fixed text free =>
    exact parameterOutline_of_not_mem (Text.not_mem_of_isFree free (by decide))
  | placeholder key name free =>
    exact parameterOutline_assigned name (Text.not_mem_of_isFree free (by decide))
  | object members => exact parameterOutline_object_source members

/-- The parts of a query that was written. -/
theorem queryOutline_querySource (parameters : List (Spaced Parameter)) :
    queryOutline (querySource parameters) = parameters.flatMap (·.item.parts) := by
  have alone (parameter : Spaced Parameter) :
      queryOutline (parameter.source Parameter.source) = parameter.item.parts := by
    rw [Spaced.eq_of_source queryOutline (fun _ query blank => queryOutline_cons blank query)
      (fun _ query blank => queryOutline_concat blank query), queryOutline_parameter]
  rw [queryOutline_eq, querySource, Text.readPieces_intercalate rfl, List.flatMap_map]
  simp only [← queryOutline_eq, alone]

theorem not_mem_pathSource (segments : List (Spaced Segment)) : '?' ∉ pathSource segments := by
  apply Text.not_mem_intercalate (by decide)
  simp only [List.forall_mem_map]
  intro segment _
  exact Spaced.not_mem_source (by decide) (segment.item.not_mem_source (by decide))

/-- The parts of a URL that was written. -/
theorem outline_written (written : Written) : outline written.text.toList = written.parts := by
  obtain ⟨path, query⟩ := written
  have noQuery : '?' ∉ path.source pathSource :=
    Spaced.not_mem_source (by decide) (not_mem_pathSource path.item)
  have pathParts : pathOutline (path.source pathSource) = path.item.flatMap (·.item.parts) := by
    rw [Spaced.eq_of_source pathOutline (fun _ path blank => pathOutline_cons blank path)
      (fun _ path blank => pathOutline_concat blank path), pathOutline_pathSource]
  simp only [Written.text, Written.parts, String.toList_ofList]
  cases query with
  | none => rw [List.append_nil, List.append_nil, outline_path noQuery, pathParts]
  | some query =>
    rw [outline_query noQuery, pathParts, Spaced.eq_of_source queryOutline
      (fun _ query blank => queryOutline_cons blank query)
      (fun _ query blank => queryOutline_concat blank query), queryOutline_querySource]

/-- Reading a URL that was written gives its text, trimmed, and exactly the parts that were written:
each placeholder with its definition in lower case, and each member with its value. -/
theorem parse_written (glossary : Glossary) (written : Written) :
    parse glossary written.text =
      ⟨Text.trim written.text, written.parts.map (UrlPart.explain glossary)⟩ := by
  have parts := parts_parse glossary written.text
  have url : (parse glossary written.text).url = Text.trim written.text := rfl
  rw [url, Text.trim, String.toList_ofList, outline_trimChars, outline_written] at parts
  exact congrArg (DocumentedUrl.mk _) parts

/-- A URL of all forms. The value of its only member has each of the outer separators. -/
def agreementUrl : Written where
  path := ⟨1, [⟨0, .fixed "" rfl, 0⟩, ⟨0, .fixed "v1" rfl, 1⟩,
    ⟨1, .placeholder ⟨"BUI", by decide, Text.isTrimmed_of_ends rfl rfl rfl rfl, rfl⟩, 0⟩], 1⟩
  query := some ⟨1, [⟨0, .fixed "all" rfl, 1⟩,
    ⟨0, .placeholder "dt" ⟨"DATE", by decide, Text.isTrimmed_of_ends rfl rfl rfl rfl, rfl⟩ rfl, 2⟩,
    ⟨0, .object [⟨"at", "10:30?/=", by decide, rfl, rfl, Text.isTrimmed_of_ends rfl rfl rfl rfl,
      Text.isTrimmed_of_ends rfl rfl rfl rfl⟩], 0⟩], 1⟩

theorem parse_written_agreement :
    parse (Glossary.empty.add "Bui" "building")
        " /v1 / :BUI ? all &dt=:DATE  &request=\x7b\"at\":\"10:30?/=\"\x7d " =
      ⟨"/v1 / :BUI ? all &dt=:DATE  &request=\x7b\"at\":\"10:30?/=\"\x7d",
        [⟨"BUI", "building"⟩, ⟨"DATE", ""⟩, ⟨"at", "10:30?/="⟩]⟩ := by
  have text : agreementUrl.text =
      " /v1 / :BUI ? all &dt=:DATE  &request=\x7b\"at\":\"10:30?/=\"\x7d " := by decide
  rw [← text, parse_written]
  decide

end DocumentedUrl

end EndpointDocs
