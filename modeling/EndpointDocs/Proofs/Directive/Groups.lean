import EndpointDocs.Directive
import EndpointDocs.Proofs.Text.Occurrence

/-!
A record as a function of its directives' texts. The lines of a block fall into seven groups, one
for each directive; every field of the record is read off the texts of one group, by one of three
rules: the last text counts, all texts are listed, or all texts are joined.
-/
namespace EndpointDocs

namespace Directive

def keywords : Directive → List String
  | .title => ["@title"]
  | .url => ["@url"]
  | .synopsis => ["@synopsis"]
  | .method => ["@method"]
  | .description => ["@description", "@desc"]
  | .input => ["@input"]
  | .response => ["@response"]

/-- Each keyword belongs to one directive. -/
theorem ofKeyword?_eq_some_iff (keyword : String) (directive : Directive) :
    ofKeyword? keyword = some directive ↔ keyword ∈ directive.keywords := by
  constructor
  · intro found
    unfold ofKeyword? at found
    repeat' split at found
    all_goals cases found
    all_goals simp_all [keywords]
  · intro listed
    cases directive <;> simp only [keywords, List.mem_cons, List.not_mem_nil, or_false] at listed
    case description =>
      rcases listed with rfl | rfl <;> rfl
    all_goals
      subst listed
      rfl

/-- The text of a line, if the line belongs to the directive. -/
def textIn? (marker : Wide) (directive : Directive) (line : String) : Option String :=
  match match? marker line with
  | some (keyword, text) => if keyword ∈ directive.keywords then some text else none
  | none => none

def textsOf (marker : Wide) (lines : List String) (directive : Directive) : List String :=
  lines.filterMap (textIn? marker directive)

def isLineOf (marker : Wide) (directive : Directive) (line : String) : Bool :=
  (textIn? marker directive line).isSome

/-- The texts are those of the directive's own lines. -/
theorem textsOf_filter_isLineOf (marker : Wide) (lines : List String) (directive : Directive) :
    textsOf marker (lines.filter (isLineOf marker directive)) directive =
      textsOf marker lines directive := by
  rw [textsOf, textsOf, List.filterMap_filter]
  congr 1
  funext line
  cases text : textIn? marker directive line <;> simp [isLineOf, text]

/-- A line without a directive has a text for none of them. -/
theorem textIn?_of_unmatched {marker : Wide} {line : String} (unmatched : match? marker line = none)
    (directive : Directive) : textIn? marker directive line = none := by
  simp [textIn?, unmatched]

/-- A line with a directive has its text for that one only. -/
theorem textIn?_of_matched {marker : Wide} {line keyword text : String} {directive : Directive}
    (matched : match? marker line = some (keyword, text))
    (found : ofKeyword? keyword = some directive) (other : Directive) :
    textIn? marker other line = if other = directive then some text else none := by
  simp only [textIn?, matched, ← ofKeyword?_eq_some_iff, found, Option.some.injEq, eq_comm]

/-- A match names a directive. -/
theorem ofKeyword?_of_matched {marker : Wide} {line keyword text : String}
    (matched : match? marker line = some (keyword, text)) :
    ∃ directive, ofKeyword? keyword = some directive := by
  unfold match? at matched
  split at matched
  · cases matched
  · dsimp only at matched
    split at matched
    · rename_i known
      cases matched
      exact Option.isSome_iff_exists.1 known
    · cases matched

/-- The methods of a text are told by what its lower case contains. -/
theorem methodsIn_eq (text : String) :
    methodsIn text =
      (if "get".toList <:+: (Text.lower text).toList then ["GET"] else []) ++
        (if "post".toList <:+: (Text.lower text).toList then ["POST"] else []) := by
  simp only [methodsIn, Text.lower, String.toList_ofList]
  congr 1 <;> exact if_congr (Text.occurs_iff_infix (by decide) _) rfl rfl

end Directive

namespace Record

/-- The paragraphs of a description joined by single blanks; those that come before the first
paragraph with content leave no blank. -/
def joinParagraphs (paragraphs : List Html) : Html :=
  ⟨" ".intercalate ((paragraphs.map Html.source).dropWhile (·.isEmpty))⟩

/-- The record that the texts of the directives give. -/
def ofTexts (glossary : Glossary) (registry : Registry) (texts : Directive → List String)
    (source : Option Path) : Record :=
  { title := (texts .title).getLast?.getD ""
    slug := (texts .title).getLast?.elim "" Directive.slugOf
    filename := (texts .title).getLast?.elim "" (Directive.slugOf · ++ ".html")
    urls := (texts .url).map (DocumentedUrl.parse glossary)
    synopsis := (texts .synopsis).getLast?.getD ""
    methods := (texts .method).flatMap fun text =>
      (if "get".toList <:+: (Text.lower text).toList then ["GET"] else []) ++
        (if "post".toList <:+: (Text.lower text).toList then ["POST"] else [])
    description := joinParagraphs ((texts .description).map glossary.highlight)
    input := (texts .input).getLast?.elim [] (registry.tableFor glossary)
    inputExample := (texts .input).getLast?.elim "" registry.exampleFor
    response := (texts .response).getLast?.elim [] (registry.tableFor glossary)
    responseExample := (texts .response).getLast?.elim "" registry.exampleFor
    source }

/-- A list that starts with a paragraph with content has content. -/
theorem intercalate_ne_empty {first : String} (rest : List String) (content : first ≠ "") :
    " ".intercalate (first :: rest) ≠ "" := by
  cases rest with
  | nil => simpa using content
  | cons second rest =>
    rw [String.intercalate_cons_cons]
    intro empty
    exact content (String.append_eq_empty_iff.1 (String.append_eq_empty_iff.1 empty).1).1

/-- One more paragraph at the end extends the description that the others make. -/
theorem joinParagraphs_concat (paragraphs : List Html) (paragraph : Html) :
    joinParagraphs (paragraphs ++ [paragraph]) =
      Directive.extendDescription (joinParagraphs paragraphs) paragraph := by
  unfold joinParagraphs Directive.extendDescription Html.isEmpty
  rw [List.map_append, List.map_cons, List.map_nil, List.dropWhile_append]
  cases kept : (paragraphs.map Html.source).dropWhile (·.isEmpty) with
  | nil =>
    -- Nothing but empty paragraphs so far: the new one stands alone, or is dropped as well.
    cases empty : paragraph.source.isEmpty with
    | true =>
      have blank : paragraph.source = "" := by simpa using empty
      simp [empty, ← blank]
    | false => simp [empty]
  | cons first rest =>
    have content : first ≠ "" := by
      have head := List.head?_dropWhile_not String.isEmpty (paragraphs.map Html.source)
      rw [kept] at head
      simpa using head
    have joined := intercalate_ne_empty rest content
    rw [if_neg (by simp), if_neg (by simpa using joined),
      String.intercalate_append_of_ne_nil (by simp) (by simp), String.intercalate_singleton]
    rfl

/-- One more text in a group acts on the record as its directive does. -/
theorem apply_ofTexts (glossary : Glossary) (registry : Registry) (directive : Directive)
    (text : String) (texts : Directive → List String) (source : Option Path) :
    directive.apply glossary registry text (ofTexts glossary registry texts source) =
      ofTexts glossary registry
        (fun other => if other = directive then texts other ++ [text] else texts other) source := by
  cases directive with
  | description =>
    simp [Directive.apply, ofTexts, joinParagraphs_concat]
  | _ => simp [Directive.apply, ofTexts, Directive.methodsIn_eq, Directive.pageSuffix]

/-- A line adds its text to the group of its directive and leaves the other groups as they are. -/
theorem applyLine_ofTexts (glossary : Glossary) (registry : Registry) (marker : Wide)
    (lines : List String) (line : String) (source : Option Path) :
    Directive.applyLine glossary registry marker
        (ofTexts glossary registry (Directive.textsOf marker lines) source) line =
      ofTexts glossary registry (Directive.textsOf marker (lines ++ [line])) source := by
  unfold Directive.applyLine
  cases matched : Directive.match? marker line with
  | none =>
    simp only
    congr 1
    funext directive
    simp [Directive.textsOf, Directive.textIn?_of_unmatched matched]
  | some pair =>
    obtain ⟨keyword, text⟩ := pair
    obtain ⟨directive, found⟩ := Directive.ofKeyword?_of_matched matched
    simp only [found]
    rw [apply_ofTexts]
    congr 1
    funext other
    simp only [Directive.textsOf, List.filterMap_append, List.filterMap_cons, List.filterMap_nil,
      Directive.textIn?_of_matched matched found]
    by_cases same : other = directive <;> simp [same]

/-- The induction is on the lines from the last one: a block's record is its last line applied to
the record of the lines before. -/
theorem ofLines_eq_ofTexts (glossary : Glossary) (registry : Registry) (marker : Wide)
    (lines : List String) (source : Option Path) :
    ofLines glossary registry marker lines source =
      ofTexts glossary registry (Directive.textsOf marker lines) source := by
  induction lines using List.reverseRecOn with
  | nil => rfl
  | append_singleton lines line ih =>
    rw [ofLines, List.foldl_append, List.foldl_cons, List.foldl_nil, ← applyLine_ofTexts, ← ih]
    rfl

/-- Any marker that is not empty can be looked for. -/
theorem ofLinesChecked_of_marker (glossary : Glossary) (registry : Registry) {marker : Wide}
    (nonempty : marker ≠ []) (lines : List String) (source : Option Path) :
    ofLinesChecked glossary registry marker lines source =
      .ok (ofLines glossary registry marker lines source) := by
  simp [ofLinesChecked, nonempty]

/-- The record of a block is what the texts of its directives give, each group by its own rule. So
lines without a directive may be put in anywhere or left out, and lines may change places as long
as each group keeps its order. -/
theorem ofLines_determined_by_groups (glossary : Glossary) (registry : Registry) (marker : Wide)
    (nonempty : marker ≠ []) (lines : List String) (source : Option Path) :
    ofLinesChecked glossary registry marker lines source =
      .ok (ofTexts glossary registry (Directive.textsOf marker lines) source) ∧
    (∀ before line after, lines = before ++ after → Directive.match? marker line = none →
      ofLinesChecked glossary registry marker (before ++ line :: after) source =
        ofLinesChecked glossary registry marker lines source) ∧
    (∀ others, (∀ directive, others.filter (Directive.isLineOf marker directive) =
        lines.filter (Directive.isLineOf marker directive)) →
      ofLinesChecked glossary registry marker others source =
        ofLinesChecked glossary registry marker lines source) := by
  have recordOf : ∀ block, ofLinesChecked glossary registry marker block source =
      .ok (ofTexts glossary registry (Directive.textsOf marker block) source) := by
    intro block
    rw [ofLinesChecked_of_marker glossary registry nonempty, ofLines_eq_ofTexts]
  refine ⟨recordOf lines, ?_, ?_⟩
  · intro before line after split unmatched
    have texts : Directive.textsOf marker (before ++ line :: after) =
        Directive.textsOf marker lines := by
      funext directive
      simp [Directive.textsOf, split, Directive.textIn?_of_unmatched unmatched]
    rw [recordOf, recordOf, texts]
  · intro others sameGroups
    have texts : Directive.textsOf marker others = Directive.textsOf marker lines := by
      funext directive
      rw [← Directive.textsOf_filter_isLineOf marker others, sameGroups directive,
        Directive.textsOf_filter_isLineOf]
    rw [recordOf, recordOf, texts]

theorem ofLines_determined_by_groups_hash :
    "#" ≠ "" ∧
    ofLinesChecked Glossary.empty Registry.empty "#"
        ["# @synopsis a", "x # @Title B c", "# @Synopsis"] none =
      .ok { title := "B c", slug := "bc", filename := "bc.html" } ∧
    ofLinesChecked Glossary.empty Registry.empty "#"
        ["x # @Title B c", "# @synopsis a", "# title", "# @Synopsis"] none =
      ofLinesChecked Glossary.empty Registry.empty "#"
        ["# @synopsis a", "x # @Title B c", "# @Synopsis"] none := by
  have determined := ofLines_determined_by_groups Glossary.empty Registry.empty "#" (by decide)
    ["# @synopsis a", "x # @Title B c", "# @Synopsis"] none
  refine ⟨by decide, ?_, ?_⟩
  · rw [determined.1]
    decide
  · apply determined.2.2
    intro directive
    cases directive <;> decide

end Record

end EndpointDocs
