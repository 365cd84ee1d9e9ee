import EndpointDocs.Html.CodeBlock
import EndpointDocs.Proofs.Html.Escape
import EndpointDocs.Proofs.Html.Tags
import EndpointDocs.Proofs.Json.Lexemes
import EndpointDocs.Proofs.Text.Lines
import EndpointDocs.Proofs.Text.Pieces

/-!
What a code block shows. Painting the lexemes of a code writes each character once and in order,
between spans that are closed before the next one opens and before the line ends. So the tags of the
body are pairs, and without them the body is the code, escaped, whatever the code contains.
-/
namespace EndpointDocs.CodeBlock

open EndpointDocs.Json (Lexeme)

def classNames : List String :=
  ["s2", "nt", "w", "kc", "mi", "mf", "p", "c1", "cm", "err"]

theorem className_mem {kind : Json.Kind} {name : String} (styled : className kind = some name) :
    name ∈ classNames := by
  cases kind <;> cases styled <;> decide

/-- What stands inside the tag that opens a span. -/
def spanName (name : String) : String :=
  "span class=\"" ++ name ++ "\""

def spanEnd : String :=
  "/span"

def spanTags (name : String) : List (List Char) :=
  [(spanName name).toList, spanEnd.toList]

namespace Mark

def shown : Mark → List Char
  | .text chars => chars
  | _ => []

def tags : Mark → List (List Char)
  | .opening name => [(spanName name).toList]
  | .closing => [spanEnd.toList]
  | .text _ => []

def opened : Mark → List String
  | .opening name => [name]
  | _ => []

end Mark

/-- Whether a line has been begun and not ended. -/
def isLineOpen (text : List Char) : Bool :=
  match text.getLast? with
  | some c => c != '\n'
  | none => false

theorem isLineOpen_concat (text : List Char) (c : Char) :
    isLineOpen (text ++ [c]) = (c != '\n') := by
  simp [isLineOpen]

theorem isLineOpen_append {text part : List Char} (whole : '\n' ∉ part) (content : part ≠ []) :
    isLineOpen (text ++ part) = true := by
  obtain ⟨before, last, rfl⟩ : ∃ before last, part = before ++ [last] :=
    ⟨part.dropLast, part.getLast content, (List.dropLast_concat_getLast content).symm⟩
  have other : last ≠ '\n' := fun same => whole (by simp [same])
  rw [← List.append_assoc, isLineOpen_concat]
  simpa using other

theorem shown_opening (name : Option String) : (opening name).flatMap Mark.shown = [] := by
  cases name <;> rfl

theorem shown_closing (name : Option String) : (closing name).flatMap Mark.shown = [] := by
  cases name <;> rfl

theorem opened_closing (name : Option String) : (closing name).flatMap Mark.opened = [] := by
  cases name <;> rfl

theorem opened_opening (name : Option String) :
    (opening name).flatMap Mark.opened = name.toList := by
  cases name <;> rfl

/-- A class that is opened and closed has the tags of a span, and no class has none. -/
theorem tags_opening_closing (name : Option String) :
    (opening name).flatMap Mark.tags ++ (closing name).flatMap Mark.tags =
      name.toList.flatMap spanTags := by
  cases name <;> rfl

/-- What holds of the marks when `text` has been painted: they show the text, a span that is open
belongs to the current line, with its end the tags are those of the spans that were opened, and
their classes are known. -/
structure Painted (p : Painting) (text : List Char) : Prop where
  shown : p.marks.reverse.flatMap Mark.shown = text
  inLine : p.inLine = isLineOpen text
  paired : p.marks.reverse.flatMap Mark.tags ++
      (if p.inLine then (closing p.last).flatMap Mark.tags else []) =
    (p.marks.reverse.flatMap Mark.opened).flatMap spanTags
  known : ∀ name ∈ p.marks.reverse.flatMap Mark.opened, name ∈ classNames

theorem painted_start : Painted Painting.start [] :=
  ⟨rfl, rfl, rfl, by simp [Painting.start]⟩

section Step

variable {p : Painting} {text part : List Char} {name : Option String}

/-- Marks are added rightly if they end the span that is open, unless it stays the one that is open,
and are balanced besides. -/
theorem Painted.add (painted : Painted p text) (names : List String) {marks : List Mark}
    {more : List Char} {inLine : Bool} {last : Option String}
    (shows : marks.flatMap Mark.shown = more) (opens : marks.flatMap Mark.opened = names)
    (known : ∀ name ∈ names, name ∈ classNames) (line : inLine = isLineOpen (text ++ more))
    (pairs : marks.flatMap Mark.tags ++
        (if inLine then (closing last).flatMap Mark.tags else []) =
      (if p.inLine then (closing p.last).flatMap Mark.tags else []) ++ names.flatMap spanTags) :
    Painted { p.add marks with inLine, last } (text ++ more) where
  shown := by simp [Painting.add, painted.shown, shows]
  inLine := line
  paired := by
    simp only [Painting.add, List.reverse_append, List.reverse_reverse, List.flatMap_append,
      List.append_assoc, opens]
    rw [pairs, ← List.append_assoc, painted.paired]
  known := by
    simp only [Painting.add, List.reverse_append, List.reverse_reverse, List.flatMap_append, opens,
      List.mem_append]
    rintro name (earlier | here)
    · exact painted.known name earlier
    · exact known name here

/-- A part with a line break behind it ends the line and its span. -/
theorem Painted.endLine (painted : Painted p text) (styled : ∀ style ∈ name, style ∈ classNames)
    (part : List Char) : Painted (p.endLine name part) (text ++ (part ++ ['\n'])) := by
  have line : false = isLineOpen (text ++ (part ++ ['\n'])) := by
    rw [← List.append_assoc, isLineOpen_concat]
    rfl
  have known : ∀ style ∈ name.toList, style ∈ classNames := by simpa using styled
  have pair := tags_opening_closing name
  simp only [Painting.endLine]
  cases part with
  | nil =>
    refine painted.add [] ?_ ?_ (by simp) line ?_
    · cases p.inLine <;> simp [shown_closing, Mark.shown]
    · cases p.inLine <;> simp [opened_closing, Mark.opened]
    · cases p.inLine <;> simp [Mark.tags]
  | cons c rest =>
    cases begun : p.inLine with
    | false =>
      refine painted.add name.toList ?_ ?_ known line ?_
      · simp [shown_opening, shown_closing, Mark.shown]
      · simp [opened_opening, opened_closing, Mark.opened]
      · simpa [begun, Mark.tags] using pair
    | true =>
      by_cases same : name = p.last
      · refine painted.add [] ?_ ?_ (by simp) line ?_
        · simp [same, shown_closing, Mark.shown]
        · simp [same, opened_closing, Mark.opened]
        · simp [same, begun, Mark.tags]
      · -- The open span has another class: it is closed, and the part has a span of its own.
        refine painted.add name.toList ?_ ?_ known line ?_
        · simp [same, shown_opening, shown_closing, Mark.shown]
        · simp [same, opened_opening, opened_closing, Mark.opened]
        · simpa [same, begun, Mark.tags] using pair

/-- A part without a line break leaves its line, and its span, open. -/
theorem Painted.stay (painted : Painted p text) (styled : ∀ style ∈ name, style ∈ classNames)
    (whole : '\n' ∉ part) : Painted (p.stay name part) (text ++ part) := by
  have known : ∀ style ∈ name.toList, style ∈ classNames := by simpa using styled
  have pair := tags_opening_closing name
  unfold Painting.stay
  split
  · rename_i empty
    rw [List.isEmpty_iff.1 empty, List.append_nil]
    exact painted
  rename_i content
  have line : true = isLineOpen (text ++ part) :=
    (isLineOpen_append whole (by simpa using content)).symm
  split
  · rename_i continued
    obtain ⟨begun, same⟩ : p.inLine = true ∧ name = p.last := by simpa using continued
    have kept : p.add [.text part] =
        { p.add [.text part] with inLine := true, last := p.last } := by
      rw [← begun]
      rfl
    rw [kept]
    exact painted.add [] (by simp [Mark.shown]) rfl (by simp) line (by simp [begun, Mark.tags])
  · refine painted.add name.toList ?_ ?_ known line ?_
    · cases p.inLine <;> simp [shown_opening, shown_closing, Mark.shown]
    · cases p.inLine <;> simp [opened_opening, opened_closing, Mark.opened]
    · cases p.inLine <;> simpa [Mark.tags] using pair

/-- The parts of a lexeme are painted with line breaks between them. -/
theorem Painted.parts {pieces : List (List Char)} (painted : Painted p text)
    (styled : ∀ style ∈ name, style ∈ classNames) (whole : ∀ piece ∈ pieces, '\n' ∉ piece) :
    Painted (p.parts name pieces) (text ++ ['\n'].intercalate pieces) := by
  induction pieces generalizing p text with
  | nil => simpa [Painting.parts] using painted
  | cons piece pieces ih =>
    obtain ⟨here, later⟩ := List.forall_mem_cons.1 whole
    cases pieces with
    | nil => simpa [Painting.parts] using painted.stay styled here
    | cons next pieces =>
      have rest := ih (painted.endLine styled piece) later
      simpa [Painting.parts, List.intercalate_cons_cons] using rest

/-- The induction is on the lexemes; each is painted behind those before it. -/
theorem Painted.foldl_lexeme (painted : Painted p text) (lexemes : List Lexeme) :
    Painted (lexemes.foldl Painting.lexeme p) (text ++ lexemes.flatMap Lexeme.text) := by
  induction lexemes generalizing p text with
  | nil => simpa using painted
  | cons lexeme lexemes ih =>
    have whole : ∀ piece ∈ lexeme.text.splitOn '\n', '\n' ∉ piece := fun _ listed =>
      Text.not_mem_of_mem_splitOn listed
    have styled : ∀ style ∈ className lexeme.kind, style ∈ classNames := fun _ styled =>
      className_mem styled
    have first : Painted (p.lexeme lexeme) (text ++ lexeme.text) := by
      have parts := painted.parts styled whole
      rwa [List.intercalate_splitOn] at parts
    have rest := ih first
    rwa [List.append_assoc, ← List.flatMap_cons] at rest

end Step

/-- The marks of lexemes that end with a line break show their text, and are balanced. -/
theorem painted_marksOf {lexemes : List Lexeme}
    (ended : isLineOpen (lexemes.flatMap Lexeme.text) = false) :
    (marksOf lexemes).flatMap Mark.shown = lexemes.flatMap Lexeme.text ∧
    (marksOf lexemes).flatMap Mark.tags =
      ((marksOf lexemes).flatMap Mark.opened).flatMap spanTags ∧
    ∀ name ∈ (marksOf lexemes).flatMap Mark.opened, name ∈ classNames := by
  have painted := painted_start.foldl_lexeme lexemes
  rw [List.nil_append] at painted
  have closed := painted.inLine.trans ended
  have marks : marksOf lexemes = (lexemes.foldl Painting.lexeme Painting.start).marks.reverse := by
    simp [marksOf, Painting.close, closed]
  have paired := painted.paired
  rw [closed, if_neg Bool.false_ne_true, List.append_nil] at paired
  rw [marks]
  exact ⟨painted.shown, paired, painted.known⟩

section Source

variable {marks : List Mark}

theorem source_opening (name : String) (rest : List Char) :
    (Mark.opening name).source ++ rest = '<' :: ((spanName name).toList ++ '>' :: rest) := by
  have written : (Mark.opening name).source =
      "<span class=\"".toList ++ name.toList ++ "\">".toList := rfl
  have start : "<span class=\"".toList = '<' :: "span class=\"".toList := by decide
  have ending : "\">".toList = ['"', '>'] := by decide
  have quote : "\"".toList = ['"'] := by decide
  rw [written, start, ending, spanName, String.toList_append, String.toList_append, quote]
  simp only [List.append_assoc, List.cons_append, List.nil_append]

theorem source_closing (rest : List Char) :
    Mark.closing.source ++ rest = '<' :: (spanEnd.toList ++ '>' :: rest) :=
  rfl

theorem not_mem_spanName {name : String} (known : name ∈ classNames) :
    '>' ∉ (spanName name).toList := by
  have closed : (classNames.all fun name => !(spanName name).toList.contains '>') = true := by
    decide
  simpa using List.all_eq_true.1 closed name known

/-- The tags of marks that are written down are the marks that are tags. -/
theorem tags_source (known : ∀ name ∈ marks.flatMap Mark.opened, name ∈ classNames)
    (rest : List Char) :
    Html.tags (marks.flatMap Mark.source ++ rest) =
      marks.flatMap Mark.tags ++ Html.tags rest := by
  induction marks with
  | nil => rfl
  | cons mark marks ih =>
    rw [List.flatMap_cons, List.forall_mem_append] at known
    have later := ih known.2
    rw [List.flatMap_cons, List.append_assoc, List.flatMap_cons, List.append_assoc, ← later]
    cases mark with
    | opening name =>
      have closed := not_mem_spanName (known.1 name (List.mem_singleton_self name))
      rw [source_opening, Html.tags_tag closed]
      rfl
    | closing =>
      rw [source_closing, Html.tags_tag (by decide)]
      rfl
    | text chars => exact Html.tags_text (Html.not_mem_code (.inl rfl) chars) _

/-- Outside of the tags stands the text that the marks show, escaped. -/
theorem withoutTags_source (known : ∀ name ∈ marks.flatMap Mark.opened, name ∈ classNames)
    (rest : List Char) :
    Html.withoutTags (marks.flatMap Mark.source ++ rest) =
      (marks.flatMap Mark.shown).flatMap Html.codeEntity ++ Html.withoutTags rest := by
  induction marks with
  | nil => rfl
  | cons mark marks ih =>
    rw [List.flatMap_cons, List.forall_mem_append] at known
    have later := ih known.2
    rw [List.flatMap_cons, List.append_assoc, List.flatMap_cons, List.flatMap_append,
      List.append_assoc, ← later]
    cases mark with
    | opening name =>
      have closed := not_mem_spanName (known.1 name (List.mem_singleton_self name))
      rw [source_opening, Html.withoutTags_tag closed]
      rfl
    | closing =>
      rw [source_closing, Html.withoutTags_tag (by decide)]
      rfl
    | text chars => exact Html.withoutTags_text (Html.not_mem_code (.inl rfl) chars) _

end Source

def Language.name : Language → String
  | .json => "json"
  | .text => "text"

theorem language?_name (language : Language) : language? language.name = some language := by
  cases language <;> decide

/-- Whatever the language, the lexemes of a code put together are the code. -/
theorem Language.flatMap_text_lexemes (language : Language) (code : List Char) :
    (language.lexemes code).flatMap Lexeme.text = code := by
  cases language with
  | json => exact Json.flatMap_text_lexemes code
  | text => simp [Language.lexemes]

/-- What stands before the code of a block, its language named. -/
def blockStart (language : Language) : String :=
  "<div class=\"codehilite\" data-language=\"" ++ language.name ++ "\"><pre><span></span>"

def blockEnd : String :=
  "</pre></div>\n"

/-- Only the first tag that opens a block is changed, and a block starts with one. -/
theorem nameLanguage_append (html language : String) :
    nameLanguage (openTag ++ html) language = openTagFor language ++ html := by
  obtain ⟨c, rest, shape⟩ := List.exists_cons_of_ne_nil (l := openTag.toList) (by decide)
  have whole : openTag.toList ++ html.toList = c :: (rest ++ html.toList) := by
    rw [shape, List.cons_append]
  have found : openTag.toList.isPrefixOf (openTag.toList ++ html.toList) = true :=
    List.isPrefixOf_iff_prefix.2 (List.prefix_append _ _)
  rw [nameLanguage, String.toList_append, whole, nameLanguageIn, ← whole, if_pos found,
    List.drop_left]
  simp

/-- The block of a code, its language named. -/
theorem source_render (language : Language) {code : String}
    (content : Text.isBlankText code = false) :
    (render code (some language.name)).source =
      blockStart language ++ String.ofList
        ((marksOf (language.lexemes (normalize code.toList))).flatMap Mark.source) ++ blockEnd := by
  have asked : language.name.isEmpty = false := by cases language <;> decide
  have start : openTagFor language.name ++ "<pre><span></span>" = blockStart language := by
    cases language <;> decide
  have painted : render code (some language.name) =
      ⟨nameLanguage (body language code.toList) language.name⟩ := by
    simp only [render, content, Option.getD_some, asked, language?_name, Bool.false_eq_true,
      if_false]
  rw [painted, ← start]
  simp only [body, String.append_assoc, nameLanguage_append]
  rfl

def withoutMark : List Char → List Char
  | '\uFEFF' :: rest => rest
  | code => code

theorem normalize_eq (code : List Char) :
    normalize code =
      Text.trimBy (· == '\n') (Text.lineFeeds (withoutMark code)) ++ ['\n'] := by
  have unmarked : (if code.head? = some '\uFEFF' then code.drop 1 else code) =
      withoutMark code := by
    fun_cases withoutMark code with
    | case1 rest => rfl
    | case2 code other =>
      refine if_neg fun first => ?_
      obtain ⟨rest, shape⟩ := List.head?_eq_some_iff.1 first
      exact other rest shape
  rw [normalize, unmarked, Text.unifyBreaks_eq_lineFeeds]

def blockName (language : Language) : String :=
  "div class=\"codehilite\" data-language=\"" ++ language.name ++ "\""

theorem tags_blockStart (language : Language) (rest : List Char) :
    Html.tags ((blockStart language).toList ++ rest) =
      (blockName language).toList :: "pre".toList :: "span".toList :: "/span".toList ::
        Html.tags rest := by
  have shape : (blockStart language).toList = '<' :: ((blockName language).toList ++
      '>' :: '<' :: ("pre".toList ++ '>' :: '<' :: ("span".toList ++
        '>' :: '<' :: ("/span".toList ++ ['>'])))) := by
    cases language <;> decide
  have closed : '>' ∉ (blockName language).toList := by cases language <;> decide
  rw [shape]
  simp only [List.append_assoc, List.cons_append, List.nil_append]
  rw [Html.tags_tag closed, Html.tags_tag (by decide), Html.tags_tag (by decide),
    Html.tags_tag (by decide)]

theorem tags_blockEnd : Html.tags blockEnd.toList = ["/pre".toList, "/div".toList] := by
  have shape : blockEnd.toList = '<' :: ("/pre".toList ++ '>' :: '<' :: ("/div".toList ++
      '>' :: (['\n'] ++ []))) := by decide
  rw [shape, Html.tags_tag (by decide), Html.tags_tag (by decide), Html.tags_text (by decide),
    Html.tags]

/-- The only attribute of a span is its class. -/
theorem attributes_spanTags {names : List String} (known : ∀ name ∈ names, name ∈ classNames) :
    (names.flatMap spanTags).flatMap Html.attributes = names.map fun _ => "class".toList := by
  have each : (classNames.all fun name =>
      decide ((spanTags name).flatMap Html.attributes = ["class".toList])) = true := by
    decide
  induction names with
  | nil => rfl
  | cons name names ih =>
    obtain ⟨here, later⟩ := List.forall_mem_cons.1 known
    have own := of_decide_eq_true (List.all_eq_true.1 each name here)
    rw [List.flatMap_cons, List.flatMap_append, own, ih later]
    rfl

/-- The tags of a block, the spans of its body among them. -/
def blockTags (language : Language) (names : List String) : List (List Char) :=
  (blockName language).toList :: "pre".toList :: "span".toList :: "/span".toList ::
    (names.flatMap spanTags ++ ["/pre".toList, "/div".toList])

/-- The language is named once: in the tag of the block, and in no tag inside it. -/
theorem count_language (language : Language) {names : List String}
    (known : ∀ name ∈ names, name ∈ classNames) :
    ((blockTags language names).flatMap Html.attributes).count "data-language".toList = 1 := by
  have start : ["pre".toList, "span".toList, "/span".toList].flatMap Html.attributes = [] := by
    decide
  have ending : ["/pre".toList, "/div".toList].flatMap Html.attributes = [] := by decide
  have own : (Html.attributes (blockName language).toList).count "data-language".toList = 1 := by
    cases language <;> decide
  have spans : (names.map fun _ => "class".toList).count "data-language".toList = 0 := by
    refine List.count_eq_zero.2 fun listed => ?_
    obtain ⟨_, _, same⟩ := List.mem_map.1 listed
    exact absurd same (by decide)
  have split : blockTags language names = (blockName language).toList ::
      (["pre".toList, "span".toList, "/span".toList] ++
        (names.flatMap spanTags ++ ["/pre".toList, "/div".toList])) := rfl
  rw [split, List.flatMap_cons, List.flatMap_append, List.flatMap_append, start, ending,
    attributes_spanTags known, List.nil_append, List.append_nil, List.count_append, own, spans]

/-- The block of a code that is not blank is its start, a body and its end, and only its own tag
names a language. The tags of the body are spans, each closed before the next one opens. Without
them and with its escapes undone, the body is the code without a byte order mark, with line feeds
as breaks, none at its start, and one at its end. -/
theorem render_shows_code (language : Language) (code : String)
    (content : Text.isBlankText code = false) :
    ∃ (body : String) (names : List String),
      let source := (render code (some language.name)).source
      source = "<div class=\"codehilite\" data-language=\"" ++ language.name ++
        "\"><pre><span></span>" ++ body ++ "</pre></div>\n" ∧
      ((Html.tags source.toList).flatMap Html.attributes).count "data-language".toList = 1 ∧
      (∀ name ∈ names, name ∈ classNames) ∧
      Html.tags body.toList = names.flatMap spanTags ∧
      '<' ∉ Html.withoutTags body.toList ∧ '>' ∉ Html.withoutTags body.toList ∧
      Html.unescape (Html.withoutTags body.toList) =
        Text.trimBy (· == '\n') (Text.lineFeeds (withoutMark code.toList)) ++ ['\n'] := by
  have lossless := language.flatMap_text_lexemes (normalize code.toList)
  have ended : isLineOpen ((language.lexemes (normalize code.toList)).flatMap Lexeme.text) =
      false := by
    rw [lossless, normalize_eq, isLineOpen_concat]
    rfl
  obtain ⟨shown, paired, known⟩ := painted_marksOf ended
  rw [lossless] at shown
  have source := source_render language content
  -- From here on only what is painted counts, not how the code was cut.
  generalize marksOf (language.lexemes (normalize code.toList)) = marks at *
  have tags := tags_source known []
  have outside := withoutTags_source known []
  rw [Html.tags, List.append_nil, List.append_nil, paired] at tags
  rw [Html.withoutTags, List.append_nil, List.append_nil, shown] at outside
  have allTags : Html.tags (render code (some language.name)).source.toList =
      blockTags language (marks.flatMap Mark.opened) := by
    rw [source, String.toList_append, String.toList_append, String.toList_ofList,
      List.append_assoc, tags_blockStart, tags_source known, paired, tags_blockEnd]
    rfl
  refine ⟨String.ofList (marks.flatMap Mark.source), marks.flatMap Mark.opened, source, ?_, known,
    ?_, ?_, ?_, ?_⟩
  · rw [allTags]
    exact count_language language known
  · rw [String.toList_ofList, tags]
  · rw [String.toList_ofList, outside]
    exact Html.not_mem_code (.inl rfl) _
  · rw [String.toList_ofList, outside]
    exact Html.not_mem_code (.inr rfl) _
  · rw [String.toList_ofList, outside, Html.unescape_code, normalize_eq]

def hostileCode : String :=
  "\uFEFF\r\n[<div class=\"codehilite\" data-language=\"x\"> /\r&lt;\"a\":/* \n"

theorem render_shows_hostileCode :
    Text.isBlankText hostileCode = false ∧
      ∃ body : String,
        (render hostileCode (some "json")).source =
          "<div class=\"codehilite\" data-language=\"json\"><pre><span></span>" ++ body ++
            "</pre></div>\n" ∧
        String.ofList (Html.unescape (Html.withoutTags body.toList)) =
          "[<div class=\"codehilite\" data-language=\"x\"> /\n&lt;\"a\":/* \n" := by
  have content : Text.isBlankText hostileCode = false := by decide
  obtain ⟨body, _, source, _, _, _, _, _, shown⟩ := render_shows_code .json hostileCode content
  refine ⟨content, body, source, ?_⟩
  rw [shown]
  decide

end EndpointDocs.CodeBlock
