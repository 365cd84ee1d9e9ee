import EndpointDocs.Glossary.Load
import EndpointDocs.Proofs.Glossary.Cells
import EndpointDocs.Proofs.Text.Trim
import EndpointDocs.Proofs.Text.Utf8

/-!
Writing a glossary source and loading it. Each entry is a row of two quoted cells; blank rows and
comment rows may stand anywhere between them, and each row has a terminator of its own. Loading adds
the entries that were written, in order, and counts them.
-/
namespace EndpointDocs

namespace Glossary

/-- A term and its definition as a source can hold them: the term is not empty and does not look
like a comment, neither has blanks at its ends, and both fit into a cell. -/
structure SourceEntry where
  term : String
  definition : String
  nonempty : term ≠ ""
  termTrimmed : Text.IsTrimmed Text.isBlank term.toList
  notComment : term.toList.head? ≠ some '#'
  definitionTrimmed : Text.IsTrimmed Text.isBlank definition.toList
  termFits : term.toList.length ≤ Csv.maxCell
  definitionFits : definition.toList.length ≤ Csv.maxCell

/-- A row of a source: an entry, blanks, or a comment. -/
inductive SourceRow where
  | entry (given : SourceEntry)
  | blank (text : List Char) (blank : ∀ c ∈ text, Text.isBlank c = true)
      (plain : ∀ c ∈ text, Csv.isPlain c = true) (fits : text.length ≤ Csv.maxCell)
  | comment (text : List Char) (marked : text.head? = some '#')
      (plain : ∀ c ∈ text, Csv.isPlain c = true) (fits : text.length ≤ Csv.maxCell)

namespace SourceRow

def text : SourceRow → List Char
  | .entry given =>
    Csv.quoteCell given.term.toList ++ ',' :: Csv.quoteCell given.definition.toList
  | .blank text _ _ _ => text
  | .comment text _ _ _ => text

def pair? : SourceRow → Option (String × String)
  | .entry given => some (given.term, given.definition)
  | .blank .. => none
  | .comment .. => none

end SourceRow

/-- The text of a source whose rows have the terminators that stand beside them. -/
def writeSource (rows : List (SourceRow × Text.Terminator)) : List Char :=
  rows.flatMap fun row => row.1.text ++ row.2.chars

def pairsOf (rows : List (SourceRow × Text.Terminator)) : List (String × String) :=
  rows.filterMap (·.1.pair?)

theorem trim_of_isTrimmed {text : String} (trimmed : Text.IsTrimmed Text.isBlank text.toList) :
    Text.trim text = text := by
  rw [Text.trim, Text.trimChars, Text.trimBy_of_isTrimmed trimmed, String.ofList_toList]

theorem entryOf?_entry (entry : SourceEntry) :
    entryOf? [entry.term, entry.definition] = some (entry.term, entry.definition) := by
  simp [entryOf?, trim_of_isTrimmed entry.termTrimmed, trim_of_isTrimmed entry.definitionTrimmed,
    entry.nonempty, entry.notComment]

/-- A row whose first cell has blanks only is no entry. -/
theorem entryOf?_blank {first : List Char} (blank : ∀ c ∈ first, Text.isBlank c = true)
    (rest : List String) : entryOf? (String.ofList first :: rest) = none := by
  have nothing : Text.trimChars first = [] := Text.trimBy_eq_nil blank
  simp [entryOf?, Text.trim, nothing]

/-- A row whose first cell starts with a number sign is no entry. -/
theorem entryOf?_comment (first : List Char) (rest : List String) :
    entryOf? (String.ofList ('#' :: first) :: rest) = none := by
  have marked : (Text.trimChars ('#' :: first)).head? = some '#' :=
    Text.head?_trimBy_cons first (by decide)
  simp [entryOf?, Text.trim, marked]

/-- Reading a row with its terminator adds its entry, if it has one. A row that is empty may add no
row at all. -/
theorem foldl_row (row : SourceRow) (terminator : Text.Terminator) (rows : List (List String))
    (afterReturn : Bool) :
    ∃ (added : List (List String)) (ended : Bool),
      (row.text ++ terminator.chars).foldl Csv.Reading.step (.between rows afterReturn) =
          .between (added.reverse ++ rows) ended ∧
        added.filterMap entryOf? = row.pair?.toList := by
  cases row with
  | entry given =>
    refine ⟨[[given.term, given.definition]], terminator == .carriageReturn, ?_, ?_⟩
    · have read := Csv.Reading.foldl_quotedRow rows given.termFits given.definitionFits terminator
        afterReturn
      simpa [SourceRow.text] using read
    · simp [entryOf?_entry, SourceRow.pair?]
  | blank text blank plain fits =>
    by_cases nothing : text = []
    · subst nothing
      obtain ⟨ended, none | empty⟩ := Csv.Reading.foldl_emptyRow rows terminator afterReturn
      · exact ⟨[], ended, by simpa [SourceRow.text] using none, rfl⟩
      · exact ⟨[[]], ended, by simpa [SourceRow.text] using empty, rfl⟩
    · obtain ⟨others, read⟩ :=
        Csv.Reading.foldl_plainRow rows nothing plain fits terminator afterReturn
      have firstBlank : ∀ c ∈ Text.before ',' text, Text.isBlank c = true :=
        fun c listed => blank c ((List.takeWhile_sublist _).mem listed)
      refine ⟨[String.ofList (Text.before ',' text) :: others], _, read, ?_⟩
      simp [entryOf?_blank firstBlank, SourceRow.pair?]
  | comment text marked plain fits =>
    obtain ⟨rest, rfl⟩ := List.head?_eq_some_iff.1 marked
    obtain ⟨others, read⟩ :=
      Csv.Reading.foldl_plainRow rows (by simp) plain fits terminator afterReturn
    refine ⟨[String.ofList (Text.before ',' ('#' :: rest)) :: others], _, read, ?_⟩
    have starts : Text.before ',' ('#' :: rest) = '#' :: Text.before ',' rest := by
      simp [Text.before]
    rw [starts, List.filterMap_cons, entryOf?_comment]
    rfl

/-- Reading rows one after another adds their entries in order. -/
theorem foldl_writeSource (source : List (SourceRow × Text.Terminator)) (rows : List (List String))
    (afterReturn : Bool) :
    ∃ (added : List (List String)) (ended : Bool),
      (writeSource source).foldl Csv.Reading.step (.between rows afterReturn) =
          .between (added.reverse ++ rows) ended ∧
        added.filterMap entryOf? = pairsOf source := by
  induction source generalizing rows afterReturn with
  | nil => exact ⟨[], afterReturn, rfl, rfl⟩
  | cons row source ih =>
    obtain ⟨here, between, read, entries⟩ := foldl_row row.1 row.2 rows afterReturn
    obtain ⟨later, ended, readLater, entriesLater⟩ := ih (here.reverse ++ rows) between
    refine ⟨here ++ later, ended, ?_, ?_⟩
    · rw [writeSource, List.flatMap_cons, List.foldl_append, read, ← writeSource, readLater]
      simp
    · rw [List.filterMap_append, entries, entriesLater, pairsOf, pairsOf, List.filterMap_cons]
      cases row.1.pair? <;> rfl

/-- A source that was written is read without a failure, as the entries it was written from. -/
theorem readSource_writeSource (source : List (SourceRow × Text.Terminator)) :
    readSource (Text.Utf8.encode (writeSource source)) = (pairsOf source, none) := by
  obtain ⟨added, ended, read, entries⟩ := foldl_writeSource source [] false
  have reading : (Csv.read (writeSource source)).close = .between added.reverse ended := by
    rw [List.append_nil] at read
    rw [Csv.read, show Csv.Reading.start = .between [] false from rfl, read]
    rfl
  rw [readSource, Text.Utf8.decodeStream_encode]
  simp only [reading, entriesOf, Csv.Reading.between, List.reverse_reverse, entries]
  rfl

/-- Loading a source that was written from entries, blank rows and comments adds the entries in
order and gives their number. -/
theorem load_writeSource (glossary : Glossary) (tree : Tree) (path : Path)
    (source : List (SourceRow × Text.Terminator))
    (stored : tree.read path = .ok (Text.Utf8.encode (writeSource source))) :
    glossary.load tree path = (glossary.addAll (pairsOf source), .ok (pairsOf source).length) := by
  rw [load, stored]
  simp only [readSource_writeSource]

/-- A term with a quote and a comma, and a definition over two lines. -/
def brokenEntry : SourceEntry where
  term := "B\"I,D"
  definition := "one\r\ntwo \"2\""
  nonempty := by decide
  termTrimmed := Text.isTrimmed_of_ends (by decide : "B\"I,D".toList.head? = some 'B')
    (by decide : "B\"I,D".toList.getLast? = some 'D') (by decide) (by decide)
  notComment := by decide
  definitionTrimmed := Text.isTrimmed_of_ends
    (by decide : "one\r\ntwo \"2\"".toList.head? = some 'o')
    (by decide : "one\r\ntwo \"2\"".toList.getLast? = some '"') (by decide) (by decide)
  termFits := by decide
  definitionFits := by decide

def bareEntry : SourceEntry :=
  { brokenEntry with
    definition := ""
    definitionTrimmed := Text.isTrimmed_of_forall nofun
    definitionFits := Nat.zero_le _ }

/-- A comment with a comma, an entry, an empty row, and an entry that replaces the first one. -/
def mixedSource : List (SourceRow × Text.Terminator) :=
  [(.comment "# terms, all".toList (by decide) (List.all_eq_true.1 (by decide)) (by decide),
      .returnAndFeed),
    (.entry brokenEntry, .lineFeed),
    (.blank [] nofun nofun (Nat.zero_le _), .returnAndFeed),
    (.entry bareEntry, .returnAndFeed)]

def mixedTree : Tree :=
  ⟨[], [(["terms.csv"], .file (Text.Utf8.encode (writeSource mixedSource)))]⟩

theorem load_mixedSource :
    writeSource mixedSource =
        ("# terms, all\r\n\"B\"\"I,D\",\"one\r\ntwo \"\"2\"\"\"\n\r\n" ++
          "\"B\"\"I,D\",\"\"\r\n").toList ∧
      mixedTree.read ⟨.here, ["terms.csv"]⟩ =
        .ok (Text.Utf8.encode (writeSource mixedSource)) ∧
      Glossary.empty.load mixedTree ⟨.here, ["terms.csv"]⟩ =
        (Glossary.empty.addAll [("B\"I,D", "one\r\ntwo \"2\""), ("B\"I,D", "")], .ok 2) := by
  have stored : mixedTree.read ⟨.here, ["terms.csv"]⟩ =
      .ok (Text.Utf8.encode (writeSource mixedSource)) := rfl
  exact ⟨by decide +kernel, stored, load_writeSource Glossary.empty mixedTree _ mixedSource stored⟩

end Glossary

end EndpointDocs
