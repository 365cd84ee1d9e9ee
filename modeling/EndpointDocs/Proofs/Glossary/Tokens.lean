import EndpointDocs.Proofs.Glossary.TokenKinds

/-!
The tokens of a text. Between them stand blanks only, so nothing else is lost, and each is a token
where it stands. Scanning finds these tokens one after another; what it carries along is that no
token could have started earlier. No other tokens cover the text.
-/
namespace EndpointDocs.Token

/-- The tokens of the text behind `before`, with blanks only around them. -/
inductive Covers : List Char → List Char → List (List Char) → Prop
  | done {before gap : List Char} (blank : ∀ c ∈ gap, Text.isBlank c = true) : Covers before gap []
  | token {before gap token after : List Char} {tokens : List (List Char)}
      (blank : ∀ c ∈ gap, Text.isBlank c = true) (isToken : IsToken (before ++ gap) token after)
      (rest : Covers (before ++ (gap ++ token)) after tokens) :
      Covers before (gap ++ (token ++ after)) (token :: tokens)

/-- A token at the start of `after` cannot be widened into `before`: where a word character comes
next, no identifier stands directly before it, and where a digit comes next, no digit does. -/
structure Apart (before after : List Char) : Prop where
  words : ∀ c ∈ after.head?, Text.isWord c = true → ∀ left, left <:+ before → ¬ IsIdentifier left
  digits : ∀ c ∈ after.head?, Text.isDigit c = true →
    ∀ d ∈ before.getLast?, Text.isDigit d = false

section Steps

variable {before : List Char}

theorem Apart.of_last {after : List Char} (last : ∀ c ∈ before.getLast?, Text.isWord c = false) :
    Apart before after where
  words := by
    rintro _ _ _ left ⟨front, rfl⟩ identifier
    rcases List.eq_nil_or_concat left with rfl | ⟨others, final, rfl⟩
    · exact identifier
    · have isWord := identifier.isWord final (by simp)
      rw [last final (by simp)] at isWord
      cases isWord
  digits := fun _ _ _ d isLast => Text.isDigit_eq_false (last d isLast)

theorem Apart.of_head {after : List Char} (head : ∀ c ∈ after.head?, Text.isWord c = false) :
    Apart before after where
  words := by
    intro c next isWord
    rw [head c next] at isWord
    cases isWord
  digits := by
    intro c next digit
    rw [Text.isDigit_eq_false (head c next)] at digit
    cases digit

/-- Behind a number no identifier ends: it would have to start before the number, which stands apart
from what is there. -/
theorem Apart.of_number {number after : List Char} (isNumber : IsNumber number)
    (apart : Apart before (number ++ after)) (ends : ∀ c ∈ after.head?, Text.isDigit c = false) :
    Apart (before ++ number) after where
  words := by
    intro _ _ _ left isSuffix identifier
    rcases List.suffix_or_suffix_of_suffix isSuffix (List.suffix_append _ _) with inside | around
    · exact isNumber.not_isIdentifier inside identifier
    · obtain ⟨front, rfl⟩ := around
      by_cases nothing : front = []
      · subst nothing
        exact isNumber.not_isIdentifier List.suffix_rfl identifier
      · obtain ⟨start, shape⟩ := isSuffix
        rw [← List.append_assoc] at shape
        have frontSuffix : front <:+ before := ⟨start, List.append_cancel_right shape⟩
        obtain ⟨first, rest, rfl, digit⟩ := isNumber.exists_digit
        exact apart.words first rfl (Text.isWord_of_isDigit digit) front frontSuffix
          (identifier.of_append nothing)
  digits := by
    intro c next digit
    rw [ends c next] at digit
    cases digit

/-- A token at the start of a text, and what is left of the text behind it. -/
structure IsStep (before text token after : List Char) : Prop where
  parts : token ++ after = text
  isToken : IsToken before token after
  apart : Apart (before ++ token) after

theorem isDigits_takeWhile {c : Char} (rest : List Char) (digit : Text.isDigit c = true) :
    IsDigits ((c :: rest).takeWhile Text.isDigit) :=
  ⟨by simp [digit], List.all_eq_true.1 List.all_takeWhile⟩

/-- A number is taken as far as it goes, and without a point that no digit follows. -/
theorem number_isStep {c : Char} {rest : List Char} (digit : Text.isDigit c = true)
    (apart : Apart before (c :: rest)) :
    IsStep before (c :: rest) (number (c :: rest)).1 (number (c :: rest)).2 := by
  have stops := apart.digits c rfl digit
  have whole := isDigits_takeWhile rest digit
  have parts : (c :: rest).takeWhile Text.isDigit ++ (c :: rest).dropWhile Text.isDigit =
      c :: rest := List.takeWhile_append_dropWhile
  have ends := Text.not_of_mem_head?_dropWhile Text.isDigit (c :: rest)
  rcases number_cases (c :: rest) with ⟨d, tail, shape, next, read⟩ | ⟨noFraction, read⟩
  · rw [read]
    have fraction := isDigits_takeWhile tail next
    have fractionParts : (d :: tail).takeWhile Text.isDigit ++ (d :: tail).dropWhile Text.isDigit =
        d :: tail := List.takeWhile_append_dropWhile
    have fractionEnds := Text.not_of_mem_head?_dropWhile Text.isDigit (d :: tail)
    have together : (c :: rest).takeWhile Text.isDigit ++
        '.' :: (d :: tail).takeWhile Text.isDigit ++ (d :: tail).dropWhile Text.isDigit =
        c :: rest := by
      rw [List.append_assoc, List.cons_append, fractionParts, ← shape, parts]
    -- The point parts the two runs, so each of them is judged by itself.
    refine ⟨together, .fraction ?_ ?_, .of_number (.inr ⟨_, _, whole, fraction, rfl⟩) ?_ ?_⟩
    · rw [fractionParts, ← shape]
      exact .digits whole stops ends
    · refine .digits fraction ?_ fractionEnds
      rw [← List.append_assoc, List.getLast?_concat]
      exact fun c same => Option.mem_some_iff.1 same ▸ by decide
    · rwa [together]
    · exact fractionEnds
  · rw [read]
    refine ⟨parts, .whole (.digits whole stops ends) noFraction, .of_number (.inl whole) ?_ ends⟩
    rwa [parts]

theorem identifier_isStep {c : Char} {rest : List Char} (word : Text.isWord c = true)
    (notDigit : Text.isDigit c = false) (apart : Apart before (c :: rest)) :
    IsStep before (c :: rest) (c :: rest.takeWhile Text.isWord) (rest.dropWhile Text.isWord) where
  parts := by rw [List.cons_append, List.takeWhile_append_dropWhile]
  isToken := .identifier (.identifier ⟨word, notDigit, List.all_eq_true.1 List.all_takeWhile⟩
    (apart.words c rfl word) (Text.not_of_mem_head?_dropWhile Text.isWord rest))
  apart := .of_head (Text.not_of_mem_head?_dropWhile Text.isWord rest)

theorem string_isStep {inside after rest : List Char}
    (closed : closeQuote? rest = some (inside, after)) :
    IsStep before ('"' :: rest) ('"' :: inside) after := by
  obtain ⟨body, isInside, rfl, rfl⟩ := exists_inside_of_closeQuote? closed
  refine ⟨rfl, .string ⟨body, isInside, rfl⟩, .of_last ?_⟩
  rw [← List.cons_append, ← List.append_assoc, List.getLast?_concat]
  exact fun c same => Option.mem_some_iff.1 same ▸ by decide

/-- A character that begins no word and no closed string is a token by itself. -/
theorem single_isStep {c : Char} {rest : List Char} (solid : Text.isBlank c = false)
    (notWord : Text.isWord c = false)
    (noString : ∀ inside, c :: rest = '"' :: inside → closeQuote? inside = none) :
    IsStep before (c :: rest) [c] rest where
  parts := rfl
  isToken := by
    refine .single solid fun piece isPrefix => ⟨fun identifier => ?_, fun number => ?_, ?_⟩
    · obtain ⟨back, shape⟩ := isPrefix
      cases piece with
      | nil => exact identifier
      | cons first others =>
        obtain ⟨rfl, _⟩ := List.cons.inj shape
        rw [identifier.1] at notWord
        cases notWord
    · obtain ⟨first, others, rfl, digit⟩ := number.exists_digit
      obtain ⟨back, shape⟩ := isPrefix
      obtain ⟨rfl, _⟩ := List.cons.inj shape
      rw [Text.isDigit_eq_false notWord] at digit
      cases digit
    · rintro ⟨inside, isInside, rfl⟩
      obtain ⟨back, shape⟩ := isPrefix
      have closed := closeQuote?_of_isInside isInside back
      have missing := noString (inside ++ '"' :: back) (by simpa using shape.symm)
      rw [closed] at missing
      cases missing
  apart := .of_last (by simpa using notWord)

/-- What is taken first is a token, of whatever kind it is. -/
theorem first_isStep {c : Char} {rest : List Char} (solid : Text.isBlank c = false)
    (apart : Apart before (c :: rest)) :
    IsStep before (c :: rest) (first c rest).1 (first c rest).2 := by
  unfold first
  cases digit : Text.isDigit c with
  | true => exact number_isStep digit apart
  | false =>
    cases word : Text.isWord c with
    | true => exact identifier_isStep word digit apart
    | false =>
      by_cases quote : c = '"'
      · subst quote
        cases closed : closeQuote? rest with
        | some pair => exact string_isStep closed
        | none =>
          refine single_isStep solid word fun inside same => ?_
          obtain ⟨_, rfl⟩ := List.cons.inj same
          exact closed
      · have noString : ∀ inside, c :: rest = '"' :: inside → closeQuote? inside = none :=
          fun inside same => absurd (List.cons.inj same).1 quote
        simpa [quote] using single_isStep solid word noString

theorem Covers.cons_blank {c : Char} {rest : List Char} {tokens : List (List Char)}
    (isBlank : Text.isBlank c = true) (covers : Covers (before ++ [c]) rest tokens) :
    Covers before (c :: rest) tokens := by
  generalize start : before ++ [c] = behind at covers
  cases covers with
  | done blank => exact .done (List.forall_mem_cons.2 ⟨isBlank, blank⟩)
  | token blank isToken rest =>
    subst start
    rw [List.append_assoc, List.singleton_append] at isToken rest
    exact .token (List.forall_mem_cons.2 ⟨isBlank, blank⟩) isToken rest

/-- Scanning finds tokens with blanks only around them. What is carried along is that the next token
cannot be widened into the text before it. -/
theorem scan_covers {text : List Char} (apart : Apart before text) :
    Covers before text (scan text) := by
  fun_induction scan text generalizing before with
  | case1 => exact .done (by simp)
  | case2 c rest blank ih =>
    -- Behind a blank nothing can be widened, whatever stood before it.
    refine .cons_blank blank (ih (.of_last ?_))
    rw [List.getLast?_concat]
    intro d same
    rw [← Option.mem_some_iff.1 same]
    cases word : Text.isWord c with
    | false => rfl
    | true =>
      rw [Text.isBlank_of_isWord word] at blank
      cases blank
  | case3 c rest notBlank ih =>
    have step := first_isStep (by simpa using notBlank) apart
    have covers : Covers before ([] ++ ((first c rest).1 ++ (first c rest).2)) _ :=
      .token (by simp) (by simpa using step.isToken) (ih step.apart)
    rwa [List.nil_append, step.parts] at covers

end Steps

section Determined

variable {token after : List Char}

theorem scan_nil : scan [] = [] := by
  generalize shape : ([] : List Char) = text
  fun_cases scan text with
  | case1 => rfl
  | case2 => cases shape
  | case3 => cases shape

theorem scan_cons_of_isBlank {c : Char} (rest : List Char) (blank : Text.isBlank c = true) :
    scan (c :: rest) = scan rest := by
  generalize shape : c :: rest = text
  fun_cases scan text with
  | case1 => cases shape
  | case2 =>
    cases shape
    rfl
  | case3 _ _ solid =>
    cases shape
    exact absurd blank solid

theorem scan_cons_of_first {c : Char} {rest : List Char} (solid : Text.isBlank c = false)
    (read : first c rest = (token, after)) : scan (c :: rest) = token :: scan after := by
  generalize shape : c :: rest = text
  fun_cases scan text with
  | case1 => cases shape
  | case2 _ _ blank =>
    cases shape
    rw [solid] at blank
    cases blank
  | case3 =>
    cases shape
    rw [read]

theorem scan_append_of_blank {gap : List Char} (blank : ∀ c ∈ gap, Text.isBlank c = true)
    (text : List Char) : scan (gap ++ text) = scan text := by
  induction gap with
  | nil => rfl
  | cons c rest ih =>
    obtain ⟨isBlank, restBlank⟩ := List.forall_mem_cons.1 blank
    rw [List.cons_append, scan_cons_of_isBlank _ isBlank, ih restBlank]

theorem scan_of_covers {text : List Char} {tokens : List (List Char)}
    (covers : Covers before text tokens) : scan text = tokens := by
  induction covers with
  | @done before gap blank =>
    have nothing := scan_append_of_blank blank []
    rwa [List.append_nil, scan_nil] at nothing
  | token blank isToken _ ih =>
    obtain ⟨c, rest, rfl, solid, read⟩ := first_of_isToken isToken
    rw [scan_append_of_blank blank, List.cons_append, scan_cons_of_first solid read, ih]

/-- The tokens that scanning finds are the only ones that cover the text. -/
theorem scan_eq_iff_covers {text : List Char} {tokens : List (List Char)} :
    scan text = tokens ↔ Covers [] text tokens := by
  constructor
  · rintro rfl
    exact scan_covers (.of_last (by simp))
  · exact scan_of_covers

end Determined

/-- A token with the blanks behind it. -/
structure Cell where
  token : List Char
  gap : List Char

/-- The piece of text that a token takes up with the blanks behind it. -/
def Cell.source (cell : Cell) : List Char :=
  cell.token ++ cell.gap

/-- The tokens of a text with the blanks between them, each judged where it stands. -/
theorem Covers.exists_cells {before text : List Char} {tokens : List (List Char)}
    (covers : Covers before text tokens) :
    ∃ (lead : List Char) (cells : List Cell),
      tokens = cells.map Cell.token ∧ text = lead ++ cells.flatMap Cell.source ∧
      (∀ c ∈ lead, Text.isBlank c = true) ∧
      (∀ cell ∈ cells, ∀ c ∈ cell.gap, Text.isBlank c = true) ∧
      ∀ front cell back, cells = front ++ cell :: back →
        IsToken (before ++ (lead ++ front.flatMap Cell.source)) cell.token
          (cell.gap ++ back.flatMap Cell.source) := by
  induction covers with
  | done blank => exact ⟨_, [], rfl, by simp, blank, by simp, by simp⟩
  | @token before gap token after tokens blank isToken _ ih =>
    obtain ⟨lead, cells, rfl, rfl, leadBlank, gapsBlank, placed⟩ := ih
    refine ⟨gap, ⟨token, lead⟩ :: cells, rfl, by simp [Cell.source], blank,
      List.forall_mem_cons.2 ⟨leadBlank, gapsBlank⟩, ?_⟩
    intro front cell back shape
    cases front with
    | nil =>
      obtain ⟨rfl, rfl⟩ := List.cons.inj shape
      simpa using isToken
    | cons first front =>
      obtain ⟨rfl, rest⟩ := List.cons.inj shape
      simpa [Cell.source] using placed front cell back rest

/-- Nothing but blanks is lost between the tokens of a text. Each token is not empty and, where it
stands, a widest identifier, a number of widest runs of digits, a complete string, or a character at
which none of these starts; only strings have blanks in them. -/
theorem tokens_cover_text (text : String) :
    ∃ (lead : List Char) (cells : List Cell),
      tokens text = cells.map (fun cell => String.ofList cell.token) ∧
      text.toList = lead ++ cells.flatMap Cell.source ∧
      (∀ c ∈ lead, Text.isBlank c = true) ∧
      (∀ cell ∈ cells, ∀ c ∈ cell.gap, Text.isBlank c = true) ∧
      (∀ front cell back, cells = front ++ cell :: back →
        IsToken (lead ++ front.flatMap Cell.source) cell.token
          (cell.gap ++ back.flatMap Cell.source)) ∧
      ∀ cell ∈ cells, cell.token ≠ [] ∧
        ((∃ c ∈ cell.token, Text.isBlank c = true) → IsString cell.token) := by
  obtain ⟨lead, cells, found, shape, leadBlank, gapsBlank, placed⟩ :=
    (scan_eq_iff_covers.1 rfl : Covers [] text.toList _).exists_cells
  refine ⟨lead, cells, ?_, shape, leadBlank, gapsBlank, by simpa using placed, ?_⟩
  · rw [tokens, found, List.map_map]
    rfl
  · intro cell listed
    obtain ⟨front, back, split⟩ := List.append_of_mem listed
    have isToken := placed front cell back split
    exact ⟨isToken.ne_nil, fun ⟨c, inside, blank⟩ => isToken.isString_of_isBlank inside blank⟩

end EndpointDocs.Token
