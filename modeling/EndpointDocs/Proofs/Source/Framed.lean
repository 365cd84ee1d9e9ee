import EndpointDocs.Proofs.Config.Texts
import EndpointDocs.Proofs.Text.Lines
import EndpointDocs.Proofs.Text.Occurrence
import EndpointDocs.Proofs.Text.Utf8

/-!
Files of annotated blocks. Under the sentinels of a loaded configuration, blocks that are framed by
their sentinel lines, with other lines between them, are scanned to those blocks, however the lines
of the file are ended.
-/
namespace EndpointDocs

namespace Block

section Collect

variable {isOpening isClosing : String → Bool}

/-- Outside of blocks, lines that open none are passed over. -/
theorem collect_gap {gap : List String} (outside : ∀ line ∈ gap, isOpening line = false)
    (rest : List String) :
    collect isOpening isClosing none (gap ++ rest) = collect isOpening isClosing none rest := by
  induction gap with
  | nil => rfl
  | cons line gap ih =>
    have here := outside line List.mem_cons_self
    rw [List.cons_append, collect, here, if_neg Bool.false_ne_true]
    exact ih fun line listed => outside line (List.mem_cons_of_mem _ listed)

/-- Inside of a block, lines that do not close it are held. -/
theorem collect_held {lines : List String} (inside : ∀ line ∈ lines, isClosing line = false)
    (held rest : List String) :
    collect isOpening isClosing (some held) (lines ++ rest) =
      collect isOpening isClosing (some (lines.reverse ++ held)) rest := by
  induction lines generalizing held with
  | nil => rfl
  | cons line lines ih =>
    have here := inside line List.mem_cons_self
    rw [List.cons_append, collect, here, if_neg Bool.false_ne_true,
      ih fun line listed => inside line (List.mem_cons_of_mem _ listed)]
    simp

/-- A framed block is collected, and the scan goes on outside of it. -/
theorem collect_block {first last : String} {block : List String}
    (opens : isOpening first = true) (inside : ∀ line ∈ block, isClosing line = false)
    (closes : isClosing last = true) (rest : List String) :
    collect isOpening isClosing none (first :: (block ++ last :: rest)) =
      block :: collect isOpening isClosing none rest := by
  rw [collect, opens, if_pos rfl, collect_held inside, collect, closes, if_pos rfl]
  simp

/-- Framed blocks with gaps after them are collected in order. The induction is on the blocks: each
is taken up between its frame, and the gap after it is passed over. -/
theorem collect_blocks {first last : String} (opens : isOpening first = true)
    (closes : isClosing last = true) {parts : List (List String × List String)}
    (inside : ∀ part ∈ parts, ∀ line ∈ part.1, isClosing line = false)
    (outside : ∀ part ∈ parts, ∀ line ∈ part.2, isOpening line = false) :
    collect isOpening isClosing none
        (parts.flatMap fun part => first :: (part.1 ++ last :: part.2)) =
      parts.map (·.1) := by
  induction parts with
  | nil => rfl
  | cons part parts ih =>
    have later := ih (fun part listed => inside part (List.mem_cons_of_mem _ listed))
      (fun part listed => outside part (List.mem_cons_of_mem _ listed))
    rw [List.flatMap_cons, List.cons_append, List.append_assoc, List.cons_append,
      collect_block opens (inside part List.mem_cons_self) closes,
      collect_gap (outside part List.mem_cons_self), later, List.map_cons]

/-- A line at the very end that does not close a block leaves the blocks as they are. -/
theorem collect_concat {last : String} (closesNone : isClosing last = false)
    (held : Option (List String)) (lines : List String) :
    collect isOpening isClosing held (lines ++ [last]) =
      collect isOpening isClosing held lines := by
  induction lines generalizing held with
  | nil => cases held <;> simp [collect, closesNone]
  | cons line lines ih =>
    cases held with
    | none =>
      rw [List.cons_append, collect, collect]
      exact ih _
    | some held =>
      rw [List.cons_append, collect, collect]
      split
      · rw [ih]
      · exact ih _

end Collect

/-- A comment that says a trimmed text is found to start with it. -/
theorem isComment_written {marker target : String} (nonempty : marker ≠ "")
    (trimmed : Text.IsTrimmed Text.isBlank target.toList) :
    isComment marker target (marker ++ " " ++ target) = true := by
  have chars : (marker ++ " " ++ target).toList = marker.toList ++ ' ' :: target.toList := by
    simp
  have comment : Text.trimChars (' ' :: target.toList) = target.toList := by
    rw [Text.trimChars, Text.trimBy_cons_of_pos _ (by decide), Text.trimBy_of_isTrimmed trimmed]
  rw [isComment, chars, Wide.after?_ofString, Text.after?_append (by simpa using nonempty)]
  simp [comment]

theorem isComment_empty (marker target : Wide) : isComment marker target "" = false := by
  have absent : marker.after? [] = none := by
    rw [Wide.after?]
    cases marker.chars? <;> rfl
  rw [isComment, String.toList_empty, absent]

/-- An empty line at the end of a file changes no block. -/
theorem extract_concat_empty (sentinels : Sentinels) (lines : List String) :
    extract sentinels (lines ++ [""]) = extract sentinels lines :=
  collect_concat (isComment_empty _ _) none lines

theorem extract_linesOf (sentinels : Sentinels) (text : List Char) :
    extract sentinels ((Text.linesOf text).map String.ofList) =
      extract sentinels ((text.splitOnP Text.isLineEnd).map String.ofList) := by
  unfold Text.linesOf
  dsimp only
  split
  · rename_i endsEmpty
    obtain ⟨before, pieces⟩ := List.getLast?_eq_some_iff.1 endsEmpty
    rw [pieces, List.dropLast_concat, List.map_append]
    exact (extract_concat_empty sentinels _).symm
  · rfl

/-- The lines of a file are scanned as they were written, however they are ended. -/
theorem ofBytes_ofLines {sentinels : Sentinels} (nonempty : sentinels.marker ≠ [])
    (terminator : Text.Terminator) (closed : Bool) {lines : List String}
    (whole : ∀ line ∈ lines, Text.isLine line.toList = true) :
    ofBytes sentinels (Text.Utf8.encode (Text.ofLines terminator closed lines)) =
      .ok (extract sentinels lines) := by
  have scanned : extract sentinels
      (((Text.unifyBreaks (Text.ofLines terminator closed lines)).splitOnP Text.isLineEnd).map
        String.ofList) = extract sentinels lines := by
    by_cases none : lines = []
    · -- No line at all is written like a single empty one.
      have asOne : Text.ofLines terminator closed lines = Text.ofLines terminator closed [""] := by
        rw [none]
        rfl
      rw [asOne, Text.pieces_ofLines terminator closed (by simp) (by simp [Text.isLine]), none]
      cases closed with
      | false => exact extract_concat_empty sentinels []
      | true =>
        exact (extract_concat_empty sentinels [""]).trans (extract_concat_empty sentinels [])
    · rw [Text.pieces_ofLines terminator closed none whole]
      cases closed with
      | false => simp
      | true => exact extract_concat_empty sentinels lines
  have notEmpty : sentinels.marker.isEmpty = false := by simpa using nonempty
  rw [ofBytes, linesOfBytes, Text.Utf8.decode_encode]
  simp only [extractChecked, notEmpty, Bool.false_and, Bool.false_eq_true, if_false,
    extract_linesOf, scanned]

/-- The line with a comment that says a text. -/
def commentLine (marker target : Wide) : String :=
  marker.replaced ++ " " ++ target.replaced

def openingLine (sentinels : Sentinels) : String :=
  commentLine sentinels.marker sentinels.opening

def closingLine (sentinels : Sentinels) : String :=
  commentLine sentinels.marker sentinels.closing

/-- What a file of annotated blocks is made of: a gap, and then blocks, each with the gap that
follows it. No line of a gap opens a block, no line of a block closes one, and no line is broken. -/
structure Annotated (sentinels : Sentinels) where
  gap : List String
  parts : List (List String × List String)
  gapOpensNone : ∀ line ∈ gap, isComment sentinels.marker sentinels.opening line = false
  blocksStayOpen : ∀ part ∈ parts, ∀ line ∈ part.1,
    isComment sentinels.marker sentinels.closing line = false
  gapsOpenNone : ∀ part ∈ parts, ∀ line ∈ part.2,
    isComment sentinels.marker sentinels.opening line = false
  whole : ∀ line ∈ gap ++ parts.flatMap (fun part => part.1 ++ part.2),
    Text.isLine line.toList = true

namespace Annotated

variable {sentinels : Sentinels}

def blocks (annotated : Annotated sentinels) : List (List String) :=
  annotated.parts.map (·.1)

def lines (annotated : Annotated sentinels) : List String :=
  annotated.gap ++ annotated.parts.flatMap fun part =>
    openingLine sentinels :: (part.1 ++ closingLine sentinels :: part.2)

/-- No line of the file is broken, if no sentinel line is. -/
theorem whole_lines (annotated : Annotated sentinels)
    (openingWhole : Text.isLine (openingLine sentinels).toList = true)
    (closingWhole : Text.isLine (closingLine sentinels).toList = true) :
    ∀ line ∈ annotated.lines, Text.isLine line.toList = true := by
  intro line listed
  rcases List.mem_append.1 listed with inGap | inPart
  · exact annotated.whole line (List.mem_append_left _ inGap)
  · obtain ⟨part, isPart, inPart⟩ := List.mem_flatMap.1 inPart
    have plain (inside : line ∈ part.1 ++ part.2) : Text.isLine line.toList = true :=
      annotated.whole line (List.mem_append_right _ (List.mem_flatMap.2 ⟨part, isPart, inside⟩))
    simp only [List.mem_cons, List.mem_append] at inPart
    rcases inPart with rfl | inBlock | rfl | inGap
    · exact openingWhole
    · exact plain (List.mem_append_left _ inBlock)
    · exact closingWhole
    · exact plain (List.mem_append_right _ inGap)

end Annotated

/-- Whether a text can be written on a line: it has no halves and no line ends. -/
def isLineText (text : Wide) : Bool :=
  text.chars?.any Text.isLine

theorem exists_of_isLineText {text : Wide} (whole : isLineText text = true) :
    ∃ plain : String, text = plain ∧ Text.isLine plain.toList = true := by
  obtain ⟨chars, isText, whole⟩ := (Option.any_eq_true _ _).1 whole
  refine ⟨String.ofList chars, ?_, by rwa [String.toList_ofList]⟩
  rw [Wide.ofString, String.toList_ofList]
  exact Wide.eq_map_char_of_chars? isText

/-- A comment that says a tidy text can be written on a line, and is found to start with the
text. -/
theorem commentLine_of_tidy {marker target : Wide} (markerWhole : isLineText marker = true)
    (targetWhole : isLineText target = true) (markerTidy : Config.Tidy marker)
    (targetTidy : Config.Tidy target) :
    Text.isLine (commentLine marker target).toList = true ∧
      isComment marker target (commentLine marker target) = true := by
  obtain ⟨marker, rfl, markerLine⟩ := exists_of_isLineText markerWhole
  obtain ⟨target, rfl, targetLine⟩ := exists_of_isLineText targetWhole
  rw [commentLine, Wide.replaced_ofString, Wide.replaced_ofString]
  constructor
  · have space : Text.isLineEnd ' ' = false := by decide
    simp only [Text.isLine, String.toList_append, List.all_append, Bool.and_eq_true]
    exact ⟨⟨markerLine, by simp [space]⟩, targetLine⟩
  · exact isComment_written (by simpa using markerTidy.nonempty)
      (Wide.isTrimmed_ofString targetTidy.trimmed)

/-- Under the sentinels of a loaded configuration, if each of them can be written on a line, a file
of annotated blocks is scanned to exactly its blocks, whatever ends its lines and whether or not the
last line is ended. -/
theorem ofFile_annotated (configTree : Tree) (homes : Homes) (configPath : Option Path)
    (config : Config) (loaded : Config.load configTree homes configPath = .ok config)
    (markerWhole : isLineText config.sentinels.marker = true)
    (openingWhole : isLineText config.sentinels.opening = true)
    (closingWhole : isLineText config.sentinels.closing = true)
    (annotated : Annotated config.sentinels) (terminator : Text.Terminator) (closed : Bool)
    (tree : Tree) (path : Path)
    (stored : tree.read path =
      .ok (Text.Utf8.encode (Text.ofLines terminator closed annotated.lines))) :
    ofFile tree config.sentinels path = .ok annotated.blocks := by
  have tidy := Config.tidy_of_load loaded
  have marker : Config.Tidy config.sentinels.marker := tidy _ (by simp [Config.texts])
  have opening := commentLine_of_tidy markerWhole openingWhole marker
    (tidy _ (by simp [Config.texts]))
  have closing := commentLine_of_tidy markerWhole closingWhole marker
    (tidy _ (by simp [Config.texts]))
  have blocks : extract config.sentinels annotated.lines = annotated.blocks := by
    rw [extract, Annotated.lines, collect_gap annotated.gapOpensNone]
    exact collect_blocks opening.2 closing.2 annotated.blocksStayOpen annotated.gapsOpenNone
  rw [ofFile, stored]
  exact (ofBytes_ofLines marker.nonempty terminator closed
    (annotated.whole_lines opening.1 closing.1)).trans (congrArg _ blocks)

/-- A configuration whose closing sentinel starts its opening one, which ends in the marker. -/
def slashConfig : Config where
  sentinels := ⟨"//", "doc//", "doc"⟩

/-- Two blocks, the second one empty, and gaps with closing comments and empty lines. -/
def slashBlocks : Annotated slashConfig.sentinels where
  gap := ["// doc", ""]
  parts := [(["x = 1 // do", "// // doc//"], ["// doc y"]), ([], [""])]
  gapOpensNone := by decide
  blocksStayOpen := by decide
  gapsOpenNone := by decide
  whole := by decide

/-- The configuration file and a source with `slashBlocks`. -/
def slashTree : Tree where
  workingDirectory := []
  entries :=
    [(["wsdoc.yaml"], .file (Text.Utf8.encode
        "comment_marker: //\nstart_sentinel: doc//\nend_sentinel: ' doc '\n".toList)),
      (["a.py"], .file (Text.Utf8.encode
        (Text.ofLines .returnAndFeed false slashBlocks.lines)))]

theorem ofFile_annotated_slash :
    Config.load slashTree (.only ⟨.root, ["home"]⟩) (some ⟨.here, ["wsdoc.yaml"]⟩) =
        .ok slashConfig ∧
      ofFile slashTree slashConfig.sentinels ⟨.here, ["a.py"]⟩ =
        .ok [["x = 1 // do", "// // doc//"], []] := by
  have loaded : Config.load slashTree (.only ⟨.root, ["home"]⟩) (some ⟨.here, ["wsdoc.yaml"]⟩) =
      .ok slashConfig := by decide +kernel
  exact ⟨loaded, ofFile_annotated slashTree _ _ slashConfig loaded rfl rfl rfl slashBlocks
    .returnAndFeed false slashTree ⟨.here, ["a.py"]⟩ rfl⟩

end Block

end EndpointDocs
