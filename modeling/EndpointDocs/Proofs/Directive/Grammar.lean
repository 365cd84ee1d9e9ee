import EndpointDocs.Proofs.Directive.Groups
import EndpointDocs.Proofs.Text.Cut
import EndpointDocs.Proofs.Text.Trim
import Mathlib.Data.List.TakeWhile

/-!
The grammar of directive lines. A line spells a directive if its first comment marker is followed by
blanks, a word that is a keyword in lower case, and then nothing but blanks or a text set off by
blanks. Matching accepts exactly these lines, and a line spells one keyword and one text at most.
-/
namespace EndpointDocs.Directive

/-- What stands behind a keyword and the text that it gives: blanks and no text, or a text with
blanks before it and possibly behind it. -/
inductive Behind : List Char → List Char → Prop where
  | nothing {blanks : List Char} (blank : ∀ c ∈ blanks, Text.isBlank c = true) : Behind blanks []
  | text {gap text rest : List Char} (apart : gap ≠ [])
      (gapBlank : ∀ c ∈ gap, Text.isBlank c = true) (nonempty : text ≠ [])
      (trimmed : Text.IsTrimmed Text.isBlank text)
      (restBlank : ∀ c ∈ rest, Text.isBlank c = true) : Behind (gap ++ text ++ rest) text

/-- Whatever does not go on with the keyword's word stands behind it, and gives the text that
trimming leaves. -/
theorem behind_trimChars {tail : List Char} (apart : ∀ c ∈ tail.head?, Text.isBlank c = true) :
    Behind tail (Text.trimChars tail) := by
  obtain ⟨gap, rest, whole, gapBlank, restBlank⟩ := Text.exists_around_trimBy Text.isBlank tail
  have trimmed := Text.trimBy_isTrimmed Text.isBlank tail
  rw [Text.trimChars]
  generalize Text.trimBy Text.isBlank tail = text at whole trimmed
  subst whole
  by_cases nonempty : text = []
  · subst nonempty
    refine .nothing fun c listed => ?_
    rcases List.mem_append.1 (by simpa using listed) with inGap | inRest
    · exact gapBlank c inGap
    · exact restBlank c inRest
  · refine .text ?_ gapBlank nonempty trimmed restBlank
    -- Without a gap the text itself would start with a blank.
    rintro rfl
    obtain ⟨first, more, rfl⟩ := List.exists_cons_of_ne_nil nonempty
    have isBlank := apart first rfl
    rw [trimmed.start first rfl] at isBlank
    cases isBlank

/-- The parts of a line with a directive. The marker is one of them, so it is a text. -/
structure Spelling (marker : Wide) where
  mark : List Char
  code : List Char
  gap : List Char
  word : List Char
  tail : List Char
  text : List Char
  isMark : marker.chars? = some mark
  first : Text.IsFirst mark code (gap ++ word ++ tail)
  gapBlank : ∀ c ∈ gap, Text.isBlank c = true
  nonempty : word ≠ []
  solid : ∀ c ∈ word, Text.isBlank c = false
  known : ∃ directive : Directive, Text.lower (String.ofList word) ∈ directive.keywords
  behind : Behind tail text

namespace Spelling

variable {marker : Wide}

def line (spelling : Spelling marker) : String :=
  String.ofList
    (spelling.code ++ spelling.mark ++ (spelling.gap ++ spelling.word ++ spelling.tail))

def keyword (spelling : Spelling marker) : String :=
  Text.lower (String.ofList spelling.word)

def remainder (spelling : Spelling marker) : String :=
  String.ofList spelling.text

end Spelling

/-- A word is cut off where a blank or nothing follows. -/
theorem cut_word {word : List Char} (solid : ∀ c ∈ word, Text.isBlank c = false)
    (rest : List Char) (apart : ∀ c ∈ rest.head?, Text.isBlank c = true) :
    (word ++ rest).takeWhile (!Text.isBlank ·) = word ∧
      (word ++ rest).dropWhile (!Text.isBlank ·) = rest := by
  apply Text.span_append
  · intro c listed
    simp [solid c listed]
  · intro c next
    simp [apart c next]

/-- A comment is cut into its word and the text behind it. -/
theorem cut_comment {gap word tail text : List Char}
    (gapBlank : ∀ c ∈ gap, Text.isBlank c = true) (nonempty : word ≠ [])
    (solid : ∀ c ∈ word, Text.isBlank c = false) (behind : Behind tail text) :
    (Text.trimChars (gap ++ word ++ tail)).takeWhile (!Text.isBlank ·) = word ∧
      Text.trimChars ((Text.trimChars (gap ++ word ++ tail)).dropWhile (!Text.isBlank ·)) =
        text := by
  have wordTrimmed := Text.isTrimmed_of_forall solid
  cases behind with
  | nothing blank =>
    have trimmed : Text.trimChars (gap ++ word ++ tail) = word :=
      Text.trimBy_around gapBlank blank wordTrimmed
    have cut := cut_word solid [] (by simp)
    rw [List.append_nil] at cut
    rw [trimmed, cut.1, cut.2]
    exact ⟨rfl, rfl⟩
  | @text space text rest apart spaceBlank textNonempty textTrimmed restBlank =>
    have inner : Text.IsTrimmed Text.isBlank (word ++ (space ++ text)) :=
      wordTrimmed.around textTrimmed nonempty textNonempty space
    have trimmed : Text.trimChars (gap ++ word ++ (space ++ text ++ rest)) =
        word ++ (space ++ text) := by
      have around := Text.trimBy_around gapBlank restBlank inner
      rw [← around]
      simp [Text.trimChars]
    have behindWord : ∀ c ∈ (space ++ text).head?, Text.isBlank c = true := by
      obtain ⟨first, more, rfl⟩ := List.exists_cons_of_ne_nil apart
      rintro c ⟨rfl⟩
      exact spaceBlank _ List.mem_cons_self
    have cut := cut_word solid (space ++ text) behindWord
    have alone : Text.trimChars (space ++ text) = text := by
      rw [Text.trimChars, Text.trimBy_append_of_forall _ spaceBlank,
        Text.trimBy_of_isTrimmed textTrimmed]
    rw [trimmed, cut.1, cut.2]
    exact ⟨rfl, alone⟩

/-- A comment with more than blanks starts, blanks aside, with a word that ends at a blank or at the
end. -/
theorem exists_word {comment : List Char} (more : ¬ ∀ c ∈ comment, Text.isBlank c = true) :
    ∃ gap word tail, comment = gap ++ word ++ tail ∧ (∀ c ∈ gap, Text.isBlank c = true) ∧
      word ≠ [] ∧ (∀ c ∈ word, Text.isBlank c = false) ∧
      ∀ c ∈ tail.head?, Text.isBlank c = true := by
  have starts := Text.not_of_mem_head?_dropWhile Text.isBlank comment
  have rest : comment.dropWhile Text.isBlank ≠ [] := by
    rw [Ne, List.dropWhile_eq_nil_iff]
    exact more
  refine ⟨comment.takeWhile Text.isBlank,
    (comment.dropWhile Text.isBlank).takeWhile (!Text.isBlank ·),
    (comment.dropWhile Text.isBlank).dropWhile (!Text.isBlank ·), ?_,
    List.all_eq_true.1 List.all_takeWhile, ?_, ?_, ?_⟩
  · rw [List.append_assoc, List.takeWhile_append_dropWhile, List.takeWhile_append_dropWhile]
  · obtain ⟨first, others, shape⟩ := List.exists_cons_of_ne_nil rest
    rw [shape] at starts ⊢
    simp [starts first rfl]
  · intro c listed
    simpa using List.all_eq_true.1 List.all_takeWhile c listed
  · intro c first
    have stopped := Text.not_of_mem_head?_dropWhile (!Text.isBlank ·) _ c first
    simpa using stopped

/-- A line made up of the parts of a directive is matched. -/
theorem Spelling.match?_line {marker : Wide} (nonempty : marker ≠ [])
    (spelling : Spelling marker) :
    match? marker spelling.line = some (spelling.keyword, spelling.remainder) := by
  have found : marker.after? spelling.line.toList =
      some (spelling.gap ++ spelling.word ++ spelling.tail) := by
    rw [Text.after?_wide_eq_some_iff nonempty]
    exact ⟨spelling.mark, spelling.isMark, spelling.code, String.toList_ofList, spelling.first⟩
  obtain ⟨isWord, isText⟩ :=
    cut_comment spelling.gapBlank spelling.nonempty spelling.solid spelling.behind
  obtain ⟨directive, listed⟩ := spelling.known
  have known : (ofKeyword? spelling.keyword).isSome = true := by
    rw [Spelling.keyword, (ofKeyword?_eq_some_iff _ _).2 listed]
    rfl
  have lowered : String.ofList (Text.lowerChars spelling.word) = spelling.keyword := by
    rw [Spelling.keyword, Text.lower, String.toList_ofList]
  simp only [match?, found, isWord, isText, lowered, known, if_true, Spelling.remainder]

/-- A line that is matched is made up of the parts of a directive. -/
theorem exists_spelling {marker : Wide} {line keyword remainder : String} (nonempty : marker ≠ [])
    (matched : match? marker line = some (keyword, remainder)) :
    ∃ spelling : Spelling marker, spelling.line = line ∧ spelling.keyword = keyword ∧
      spelling.remainder = remainder := by
  unfold match? at matched
  split at matched
  · cases matched
  · rename_i comment found
    obtain ⟨mark, isMark, code, whole, first⟩ := (Text.after?_wide_eq_some_iff nonempty _ _).1 found
    have more : ¬ ∀ c ∈ comment, Text.isBlank c = true := by
      intro blank
      have trimmed : Text.trimChars comment = [] := Text.trimBy_eq_nil blank
      simp only [trimmed, List.takeWhile_nil] at matched
      rw [if_neg (by decide)] at matched
      cases matched
    obtain ⟨gap, word, tail, rfl, gapBlank, wordNonempty, solid, apart⟩ := exists_word more
    have behind := behind_trimChars apart
    obtain ⟨isWord, isText⟩ := cut_comment gapBlank wordNonempty solid behind
    simp only [isWord, isText] at matched
    split at matched
    · rename_i known
      cases matched
      obtain ⟨directive, isKeyword⟩ := Option.isSome_iff_exists.1 known
      refine ⟨⟨mark, code, gap, word, tail, Text.trimChars tail, isMark, first, gapBlank,
        wordNonempty, solid, ⟨directive, ?_⟩, behind⟩, ?_, ?_, rfl⟩
      · rw [Text.lower, String.toList_ofList]
        exact (ofKeyword?_eq_some_iff _ _).1 isKeyword
      · rw [Spelling.line, ← whole, String.ofList_toList]
      · rw [Spelling.keyword, Text.lower, String.toList_ofList]
    · cases matched

/-- Matching a line gives a keyword and a text exactly if the line is made up of the parts of a
directive with that keyword and that text, and nothing exactly if it is made up of no such parts. A
line can be taken apart in more than one way only with the same keyword and the same text. -/
theorem matchChecked_iff_spelling (marker : Wide) (line : String) (nonempty : marker ≠ []) :
    (∀ keyword remainder, matchChecked marker line = .ok (some (keyword, remainder)) ↔
      ∃ spelling : Spelling marker, spelling.line = line ∧ spelling.keyword = keyword ∧
        spelling.remainder = remainder) ∧
    (matchChecked marker line = .ok none ↔ ∀ spelling : Spelling marker, spelling.line ≠ line) ∧
    ∀ spelling other : Spelling marker, spelling.line = line → other.line = line →
      spelling.keyword = other.keyword ∧ spelling.remainder = other.remainder := by
  have checked : matchChecked marker line = .ok (match? marker line) := by
    simp [matchChecked, nonempty]
  rw [checked]
  refine ⟨?_, ?_, ?_⟩
  · intro keyword remainder
    constructor
    · intro matched
      exact exists_spelling nonempty (Except.ok.inj matched)
    · rintro ⟨spelling, rfl, rfl, rfl⟩
      rw [spelling.match?_line nonempty]
  · constructor
    · rintro unmatched spelling rfl
      rw [spelling.match?_line nonempty] at unmatched
      cases unmatched
    · intro noSpelling
      cases matched : match? marker line with
      | none => rfl
      | some pair =>
        obtain ⟨spelling, isLine, _⟩ := exists_spelling nonempty matched
        exact absurd isLine (noSpelling spelling)
  · rintro spelling other rfl same
    have matched := other.match?_line nonempty
    rw [same, spelling.match?_line nonempty] at matched
    simpa using matched

theorem matchChecked_iff_spelling_overlapping :
    Wide.ofString "##" ≠ [] ∧
    matchChecked "##" "x ##\t@Desc\u2003 A  b " = .ok (some ("@desc", "A  b")) ∧
    (∃ spelling : Spelling "##", spelling.line = "x ##\t@Desc\u2003 A  b " ∧
      spelling.keyword = "@desc" ∧ spelling.remainder = "A  b") ∧
    ∀ spelling : Spelling "##", spelling.line ≠ "x ### @Desc A" := by
  have matched : matchChecked "##" "x ##\t@Desc\u2003 A  b " = .ok (some ("@desc", "A  b")) := by
    decide +kernel
  have unmatched : matchChecked "##" "x ### @Desc A" = .ok none := by
    decide +kernel
  exact ⟨by decide, matched,
    ((matchChecked_iff_spelling "##" _ (by decide)).1 _ _).1 matched,
    (matchChecked_iff_spelling "##" _ (by decide)).2.1.1 unmatched⟩

end EndpointDocs.Directive
