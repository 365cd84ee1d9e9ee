import EndpointDocs.Glossary.Token
import EndpointDocs.Proofs.Text.Cut
import EndpointDocs.Proofs.Text.Digit

/-!
The kinds of tokens. A token is judged by the text on both of its sides: an identifier and the runs
of digits of a number are as wide as they can be, a string is complete, and any other character
stands for itself only if nothing longer starts there. What stands somewhere as a token is what
reading finds there.
-/
namespace EndpointDocs.Token

/-- A word that does not start with a digit. -/
def IsIdentifier : List Char → Prop
  | [] => False
  | c :: rest =>
    Text.isWord c = true ∧ Text.isDigit c = false ∧ ∀ d ∈ rest, Text.isWord d = true

def IsDigits (run : List Char) : Prop :=
  run ≠ [] ∧ ∀ d ∈ run, Text.isDigit d = true

/-- Digits, or digits on both sides of a point. -/
def IsNumber (text : List Char) : Prop :=
  IsDigits text ∨ ∃ whole fraction, IsDigits whole ∧ IsDigits fraction ∧
    text = whole ++ '.' :: fraction

/-- What may stand between the quotes of a string: no line break, and no quote or backslash but
behind a backslash. -/
inductive IsInside : List Char → Prop
  | nil : IsInside []
  | plain {c : Char} {rest : List Char} (noQuote : c ≠ '"') (noBackslash : c ≠ '\\')
      (noBreak : c ≠ '\n') (inside : IsInside rest) : IsInside (c :: rest)
  | escaped {c : Char} {rest : List Char} (noBreak : c ≠ '\n') (inside : IsInside rest) :
      IsInside ('\\' :: c :: rest)

def IsString (text : List Char) : Prop :=
  ∃ inside, IsInside inside ∧ text = '"' :: (inside ++ ['"'])

/-- A piece of a text is of a kind, and no wider piece around it is. -/
structure IsMaximal (kind : List Char → Prop) (before piece after : List Char) : Prop where
  holds : kind piece
  widest : ∀ left right, left <:+ before → right <+: after → kind (left ++ piece ++ right) →
    left = [] ∧ right = []

/-- What a token is, with the text before it and after it. -/
inductive IsToken (before : List Char) : List Char → List Char → Prop
  | identifier {token after : List Char} (maximal : IsMaximal IsIdentifier before token after) :
      IsToken before token after
  | whole {token after : List Char} (maximal : IsMaximal IsDigits before token after)
      (noFraction : ∀ d rest, after = '.' :: d :: rest → Text.isDigit d = false) :
      IsToken before token after
  | fraction {whole fraction after : List Char}
      (maximal : IsMaximal IsDigits before whole ('.' :: (fraction ++ after)))
      (fractionMaximal : IsMaximal IsDigits (before ++ (whole ++ ['.'])) fraction after) :
      IsToken before (whole ++ '.' :: fraction) after
  | string {token after : List Char} (complete : IsString token) : IsToken before token after
  | single {c : Char} {after : List Char} (solid : Text.isBlank c = false)
      (nothingLonger : ∀ piece, piece <+: c :: after →
        ¬ IsIdentifier piece ∧ ¬ IsNumber piece ∧ ¬ IsString piece) :
      IsToken before [c] after

section Kinds

theorem IsIdentifier.isWord {word : List Char} (identifier : IsIdentifier word) :
    ∀ c ∈ word, Text.isWord c = true := by
  cases word with
  | nil => cases identifier
  | cons first rest => exact List.forall_mem_cons.2 ⟨identifier.1, identifier.2.2⟩

theorem IsIdentifier.of_append {left right : List Char} (identifier : IsIdentifier (left ++ right))
    (nonempty : left ≠ []) : IsIdentifier left := by
  obtain ⟨c, rest, rfl⟩ := List.exists_cons_of_ne_nil nonempty
  obtain ⟨word, notDigit, restWord⟩ := identifier
  exact ⟨word, notDigit, fun d listed => restWord d (List.mem_append_left _ listed)⟩

theorem IsIdentifier.append {word more : List Char} (identifier : IsIdentifier word)
    (moreWord : ∀ c ∈ more, Text.isWord c = true) : IsIdentifier (word ++ more) := by
  cases word with
  | nil => cases identifier
  | cons c rest =>
    obtain ⟨isWord, notDigit, restWord⟩ := identifier
    exact ⟨isWord, notDigit, List.forall_mem_append.2 ⟨restWord, moreWord⟩⟩

/-- A number starts with a digit. -/
theorem IsNumber.exists_digit {text : List Char} (number : IsNumber text) :
    ∃ c rest, text = c :: rest ∧ Text.isDigit c = true := by
  rcases number with digits | ⟨whole, fraction, digits, _, rfl⟩
  · obtain ⟨c, rest, rfl⟩ := List.exists_cons_of_ne_nil digits.1
    exact ⟨c, rest, rfl, digits.2 c List.mem_cons_self⟩
  · obtain ⟨c, rest, rfl⟩ := List.exists_cons_of_ne_nil digits.1
    exact ⟨c, _, rfl, digits.2 c List.mem_cons_self⟩

theorem IsNumber.mem {text : List Char} (number : IsNumber text) {c : Char} (listed : c ∈ text) :
    Text.isDigit c = true ∨ c = '.' := by
  rcases number with digits | ⟨whole, fraction, digits, fractionDigits, rfl⟩
  · exact .inl (digits.2 c listed)
  · rcases List.mem_append.1 listed with inWhole | inFraction
    · exact .inl (digits.2 c inWhole)
    · rcases List.mem_cons.1 inFraction with rfl | later
      · exact .inr rfl
      · exact .inl (fractionDigits.2 c later)

theorem IsNumber.not_isIdentifier {text piece : List Char} (number : IsNumber text)
    (inside : piece <:+ text) : ¬ IsIdentifier piece := by
  intro identifier
  cases piece with
  | nil => exact identifier
  | cons c rest =>
    rcases number.mem (inside.mem List.mem_cons_self) with digit | rfl
    · rw [identifier.2.1] at digit
      cases digit
    · exact absurd identifier.1 (by decide)

/-- Digits between characters that are no digits cannot be widened. -/
theorem IsMaximal.digits {before run after : List Char} (digits : IsDigits run)
    (stops : ∀ c ∈ before.getLast?, Text.isDigit c = false)
    (ends : ∀ c ∈ after.head?, Text.isDigit c = false) : IsMaximal IsDigits before run after where
  holds := digits
  widest := by
    intro left right isSuffix isPrefix wider
    constructor
    · rcases List.eq_nil_or_concat left with nothing | ⟨others, last, rfl⟩
      · exact nothing
      · obtain ⟨front, rfl⟩ := isSuffix
        have isDigit := wider.2 last (by simp)
        rw [stops last (by simp)] at isDigit
        cases isDigit
    · cases right with
      | nil => rfl
      | cons first others =>
        obtain ⟨back, rfl⟩ := isPrefix
        have isDigit := wider.2 first (by simp)
        rw [ends first rfl] at isDigit
        cases isDigit

/-- A word cannot be widened if no word ends right before it and no character of words follows. -/
theorem IsMaximal.identifier {before word after : List Char} (identifier : IsIdentifier word)
    (stops : ∀ left, left <:+ before → ¬ IsIdentifier left)
    (ends : ∀ c ∈ after.head?, Text.isWord c = false) :
    IsMaximal IsIdentifier before word after where
  holds := identifier
  widest := by
    intro left right isSuffix isPrefix wider
    constructor
    · by_contra nonempty
      rw [List.append_assoc] at wider
      exact stops left isSuffix (wider.of_append nonempty)
    · cases right with
      | nil => rfl
      | cons first others =>
        obtain ⟨back, rfl⟩ := isPrefix
        have isWord := wider.isWord first (by simp)
        rw [ends first rfl] at isWord
        cases isWord

theorem closeQuote?_of_isInside {inside : List Char} (isInside : IsInside inside)
    (rest : List Char) : closeQuote? (inside ++ '"' :: rest) = some (inside ++ ['"'], rest) := by
  induction isInside with
  | nil => rfl
  | plain noQuote noBackslash noBreak _ ih =>
    rw [List.cons_append, closeQuote?]
    · simp [noBreak, noBackslash, ih]
    · exact noQuote
    · exact fun _ _ isBackslash _ => noBackslash isBackslash
  | escaped noBreak _ ih =>
    simp [closeQuote?, noBreak, ih]

/-- What is taken up to a closing quote is the inside of a string and that quote. -/
theorem exists_inside_of_closeQuote? {text inside rest : List Char}
    (closed : closeQuote? text = some (inside, rest)) :
    ∃ body, IsInside body ∧ inside = body ++ ['"'] ∧ text = inside ++ rest := by
  fun_induction closeQuote? text generalizing inside rest with
  | case1 => cases closed
  | case2 tail =>
    cases closed
    exact ⟨[], .nil, rfl, rfl⟩
  | case3 => cases closed
  | case4 c tail notBreak ih =>
    obtain ⟨⟨within, behind⟩, found, same⟩ := Option.map_eq_some_iff.1 closed
    cases same
    obtain ⟨body, isInside, rfl, rfl⟩ := ih found
    exact ⟨'\\' :: c :: body, .escaped (by simpa using notBreak) isInside, rfl, rfl⟩
  | case5 => cases closed
  | case6 c tail noQuote _ notBreak ih =>
    obtain ⟨⟨within, behind⟩, found, same⟩ := Option.map_eq_some_iff.1 closed
    cases same
    obtain ⟨body, isInside, rfl, rfl⟩ := ih found
    simp only [Bool.or_eq_true, beq_iff_eq, not_or] at notBreak
    exact ⟨c :: body, .plain noQuote notBreak.2 notBreak.1 isInside, rfl, rfl⟩

/-- A number goes on behind a point exactly if a digit follows the point. -/
theorem number_cases (text : List Char) :
    (∃ d tail, text.dropWhile Text.isDigit = '.' :: d :: tail ∧ Text.isDigit d = true ∧
      number text = (text.takeWhile Text.isDigit ++ '.' :: (d :: tail).takeWhile Text.isDigit,
        (d :: tail).dropWhile Text.isDigit)) ∨
    ((∀ d tail, text.dropWhile Text.isDigit = '.' :: d :: tail → Text.isDigit d = false) ∧
      number text = (text.takeWhile Text.isDigit, text.dropWhile Text.isDigit)) := by
  unfold number
  split
  · rename_i d tail shape
    cases digit : Text.isDigit d with
    | true => exact .inl ⟨d, tail, shape, digit, by simp⟩
    | false =>
      refine .inr ⟨?_, by simp [shape]⟩
      intro other otherTail sameShape
      rw [shape] at sameShape
      cases sameShape
      exact digit
  · rename_i noPoint
    exact .inr ⟨fun d tail shape => absurd shape (noPoint d tail), rfl⟩

end Kinds

section Determined

variable {before token after : List Char}

theorem IsMaximal.not_concat {kind : List Char → Prop} {c : Char}
    (maximal : IsMaximal kind before token (c :: after)) : ¬ kind (token ++ [c]) := by
  intro wider
  have nothing := maximal.widest [] [c] List.nil_suffix ⟨after, rfl⟩ wider
  cases nothing.2

theorem IsMaximal.ends_of_isWord (maximal : IsMaximal IsIdentifier before token after) :
    ∀ c ∈ after.head?, Text.isWord c = false := by
  intro c next
  obtain ⟨rest, rfl⟩ := List.head?_eq_some_iff.1 next
  rw [Bool.eq_false_iff]
  intro word
  exact maximal.not_concat (maximal.holds.append (List.forall_mem_singleton.2 word))

theorem IsMaximal.ends_of_isDigit (maximal : IsMaximal IsDigits before token after) :
    ∀ c ∈ after.head?, Text.isDigit c = false := by
  intro c next
  obtain ⟨rest, rfl⟩ := List.head?_eq_some_iff.1 next
  rw [Bool.eq_false_iff]
  intro digit
  exact maximal.not_concat
    ⟨by simp, List.forall_mem_append.2 ⟨maximal.holds.2, List.forall_mem_singleton.2 digit⟩⟩

theorem number_of_whole (maximal : IsMaximal IsDigits before token after)
    (noFraction : ∀ d rest, after = '.' :: d :: rest → Text.isDigit d = false) :
    number (token ++ after) = (token, after) := by
  obtain ⟨taken, left⟩ := Text.span_append maximal.holds.2 maximal.ends_of_isDigit
  rcases number_cases (token ++ after) with ⟨d, tail, shape, digit, _⟩ | ⟨_, read⟩
  · rw [left] at shape
    rw [noFraction d tail shape] at digit
    cases digit
  · rw [read, taken, left]

/-- A fraction is taken whole if a digit follows its point. -/
theorem number_of_fraction {whole fraction : List Char}
    (maximal : IsMaximal IsDigits before whole ('.' :: (fraction ++ after)))
    (fractionMaximal : IsMaximal IsDigits (before ++ (whole ++ ['.'])) fraction after) :
    number (whole ++ '.' :: (fraction ++ after)) = (whole ++ '.' :: fraction, after) := by
  obtain ⟨taken, left⟩ := Text.span_append maximal.holds.2 maximal.ends_of_isDigit
  obtain ⟨d, digits, rfl⟩ := List.exists_cons_of_ne_nil fractionMaximal.holds.1
  rcases number_cases (whole ++ '.' :: (d :: digits ++ after)) with
    ⟨other, tail, shape, _, read⟩ | ⟨noFraction, _⟩
  · obtain ⟨fractionTaken, fractionLeft⟩ :=
      Text.span_append fractionMaximal.holds.2 fractionMaximal.ends_of_isDigit
    rw [left] at shape
    obtain ⟨_, sameTail⟩ := List.cons.inj shape
    rw [read, taken, ← sameTail, fractionTaken, fractionLeft]
  · have digit := fractionMaximal.holds.2 d List.mem_cons_self
    rw [noFraction d _ left] at digit
    cases digit

theorem first_of_isDigit {c : Char} (rest : List Char) (digit : Text.isDigit c = true) :
    first c rest = number (c :: rest) := by
  rw [first, if_pos digit]

theorem first_of_isWord {c : Char} (rest : List Char) (word : Text.isWord c = true)
    (notDigit : Text.isDigit c = false) :
    first c rest = (c :: rest.takeWhile Text.isWord, rest.dropWhile Text.isWord) := by
  rw [first, if_neg (by simp [notDigit]), if_pos word]

theorem first_of_isInside {inside : List Char} (isInside : IsInside inside) (rest : List Char) :
    first '"' (inside ++ '"' :: rest) = ('"' :: (inside ++ ['"']), rest) := by
  have notWord : Text.isWord '"' = false := by decide
  rw [first, if_neg (by simp [Text.isDigit_eq_false notWord]), if_neg (by simp [notWord]),
    closeQuote?_of_isInside isInside]
  rfl

/-- Where no word, number or string begins, the first token is a single character. -/
theorem first_of_nothingLonger {c : Char} (nothingLonger : ∀ piece, piece <+: c :: after →
      ¬ IsIdentifier piece ∧ ¬ IsNumber piece ∧ ¬ IsString piece) :
    first c after = ([c], after) := by
  obtain ⟨noIdentifier, noNumber, _⟩ := nothingLonger [c] ⟨after, rfl⟩
  have notDigit : Text.isDigit c = false := by
    rw [Bool.eq_false_iff]
    exact fun digit => noNumber (.inl ⟨by simp, List.forall_mem_singleton.2 digit⟩)
  have notWord : Text.isWord c = false := by
    rw [Bool.eq_false_iff]
    exact fun word => noIdentifier ⟨word, notDigit, by simp⟩
  rw [first, if_neg (by simp [notDigit]), if_neg (by simp [notWord])]
  -- A quote stands for itself only if no string is closed behind it.
  by_cases quote : c = '"'
  · subst quote
    cases closed : closeQuote? after with
    | none => rfl
    | some pair =>
      obtain ⟨body, isInside, shape, parts⟩ := exists_inside_of_closeQuote? closed
      have isPrefix : '"' :: (body ++ ['"']) <+: '"' :: after := ⟨pair.2, by simp [parts, shape]⟩
      exact absurd ⟨body, isInside, rfl⟩ (nothingLonger _ isPrefix).2.2
  · rw [if_neg (by simpa using quote)]

/-- The first token of a text is what stands there as a token. -/
theorem first_of_isToken (isToken : IsToken before token after) :
    ∃ c rest, token = c :: rest ∧ Text.isBlank c = false ∧
      first c (rest ++ after) = (token, after) := by
  cases isToken with
  | identifier maximal =>
    cases token with
    | nil => exact maximal.holds.elim
    | cons c rest =>
      obtain ⟨word, notDigit, restWord⟩ := maximal.holds
      obtain ⟨taken, left⟩ := Text.span_append restWord maximal.ends_of_isWord
      refine ⟨c, rest, rfl, Text.isBlank_of_isWord word, ?_⟩
      rw [first_of_isWord _ word notDigit, taken, left]
  | whole maximal noFraction =>
    obtain ⟨c, rest, rfl⟩ := List.exists_cons_of_ne_nil maximal.holds.1
    have digit := maximal.holds.2 c List.mem_cons_self
    refine ⟨c, rest, rfl, Text.isBlank_of_isDigit digit, ?_⟩
    rw [first_of_isDigit _ digit, ← List.cons_append, number_of_whole maximal noFraction]
  | @fraction whole fraction after maximal fractionMaximal =>
    obtain ⟨c, rest, rfl⟩ := List.exists_cons_of_ne_nil maximal.holds.1
    have digit := maximal.holds.2 c List.mem_cons_self
    refine ⟨c, rest ++ '.' :: fraction, rfl, Text.isBlank_of_isDigit digit, ?_⟩
    rw [first_of_isDigit _ digit, List.append_assoc, ← List.cons_append]
    exact number_of_fraction maximal fractionMaximal
  | string complete =>
    obtain ⟨inside, isInside, rfl⟩ := complete
    refine ⟨'"', inside ++ ['"'], rfl, by decide, ?_⟩
    rw [List.append_assoc]
    exact first_of_isInside isInside after
  | @single c after solid nothingLonger =>
    exact ⟨c, [], rfl, solid, first_of_nothingLonger nothingLonger⟩

theorem IsToken.ne_nil {before token after : List Char} (isToken : IsToken before token after) :
    token ≠ [] := by
  obtain ⟨c, rest, rfl, _⟩ := first_of_isToken isToken
  simp

/-- Blanks can only stand inside strings. -/
theorem IsToken.isString_of_isBlank {before token after : List Char}
    (isToken : IsToken before token after) {c : Char} (listed : c ∈ token)
    (blank : Text.isBlank c = true) : IsString token := by
  have solid {d : Char} (isSolid : Text.isBlank d = false) : c ≠ d := by
    rintro rfl
    rw [isSolid] at blank
    cases blank
  cases isToken with
  | identifier maximal =>
    exact absurd rfl (solid (Text.isBlank_of_isWord (maximal.holds.isWord c listed)))
  | whole maximal _ => exact absurd rfl (solid (Text.isBlank_of_isDigit (maximal.holds.2 c listed)))
  | fraction maximal fractionMaximal =>
    have number : IsNumber _ := .inr ⟨_, _, maximal.holds, fractionMaximal.holds, rfl⟩
    rcases number.mem listed with digit | isPoint
    · exact absurd rfl (solid (Text.isBlank_of_isDigit digit))
    · exact absurd isPoint (solid (by decide))
  | string complete => exact complete
  | single isSolid _ => exact absurd (List.mem_singleton.1 listed) (solid isSolid)

end Determined

end EndpointDocs.Token
