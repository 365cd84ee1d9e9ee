import EndpointDocs.Proofs.Json.Reader
import Mathlib.Data.List.TakeWhile

/-!
Strings and numbers are read back as they were written. A string is followed one character at a
time, as the UTF-16 units that its escapes stand for; a number is one word, with its digits in front
of the point and behind it.
-/
namespace EndpointDocs

namespace Text

/-- The digits of a number: those of its sixteenth part, and one more. -/
theorem hexDigits_succ (width n : Nat) (positive : 0 < width) :
    hexDigits (width + 1) n = hexDigits width (n / 16) ++ [Nat.digitChar (n % 16)] := by
  simp only [hexDigits]
  by_cases small : n < 16
  · rw [Nat.toDigits_of_lt_base small, Nat.div_eq_of_lt small, Nat.mod_eq_of_lt small,
      Nat.toDigits_zero]
    have padding : List.replicate (width - 1) '0' ++ ['0'] = List.replicate width '0' := by
      rw [← List.replicate_succ', Nat.sub_add_cancel positive]
    simp [padding]
  · rw [Nat.toDigits_of_base_le (by decide) (by omega)]
    simp [Nat.add_sub_add_right]

theorem hexDigits_four (n : Nat) (small : n < 65536) :
    hexDigits 4 n = [n / 4096, n / 256 % 16, n / 16 % 16, n % 16].map Nat.digitChar := by
  have first : hexDigits 1 (n / 16 / 16 / 16) = [Nat.digitChar (n / 16 / 16 / 16)] := by
    rw [hexDigits, Nat.toDigits_of_lt_base (by omega)]
    rfl
  rw [hexDigits_succ 3 _ (by decide), hexDigits_succ 2 _ (by decide),
    hexDigits_succ 1 _ (by decide), first]
  simp only [Nat.div_div_eq_div_mul]
  rfl

end Text

namespace Json

theorem tokens?_cons (scan : Scan) (c : Char) (rest : List Char) :
    tokens? scan (c :: rest) =
      (scan.step c).bind fun (next, tokens) => (tokens? next rest).map (tokens ++ ·) := by
  cases scan <;> rfl

theorem tokens?_silent (next : Scan) {scan : Scan} {c : Char}
    (silent : scan.step c = some (next, [])) (rest : List Char) :
    tokens? scan (c :: rest) = tokens? next rest := by
  rw [tokens?_cons, silent]
  simp

/-- Behind a string or a mark nothing is pending. -/
theorem tokens?_token {scan : Scan} {c : Char} {token : Token}
    (read : scan.step c = some (.between, [token])) (rest : List Char) :
    tokens? scan (c :: rest) = (tokens? .between rest).map (token :: ·) := by
  rw [tokens?_cons, read]
  rfl

section Strings

theorem digitValue?_digitChar :
    ∀ digit < 16, Numeral.digitValue? (Nat.digitChar digit) = some digit := by
  decide

/-- The four digits of an escape give back the unit that was written. -/
theorem tokens?_unitEscape (units : List Nat) (unit : Nat) (small : unit < 65536)
    (rest : List Char) :
    tokens? (.string units) (unitEscape unit ++ rest) = tokens? (.string (unit :: units)) rest := by
  have digit : ∀ (value left digit : Nat) (rest : List Char), digit < 16 →
      tokens? (.digits units value left) (Nat.digitChar digit :: rest) =
        if 1 < left then tokens? (.digits units (value * 16 + digit) (left - 1)) rest
        else tokens? (.string ((value * 16 + digit) :: units)) rest := by
    intro value left digit rest small
    rw [tokens?_cons, Scan.step, digitValue?_digitChar digit small]
    split <;> simp_all
  have value : (((0 * 16 + unit / 4096) * 16 + unit / 256 % 16) * 16 + unit / 16 % 16) * 16 +
      unit % 16 = unit := by omega
  rw [unitEscape, Text.hexDigits_four unit small]
  simp only [List.map_cons, List.map_nil, List.cons_append, List.nil_append]
  rw [tokens?_silent (.backslash units) rfl, tokens?_silent (.digits units 0 4) rfl,
    digit _ _ _ _ (by omega), digit _ _ _ _ (by omega), digit _ _ _ _ (by omega),
    digit _ _ _ _ (by omega), value]
  simp

theorem tokens?_escaped (units : List Nat) {c : Char} {unit : Nat}
    (escaped : escaped? c = some unit) (rest : List Char) :
    tokens? (.string units) ('\\' :: c :: rest) = tokens? (.string (unit :: units)) rest := by
  have other : (c == 'u') = false := by
    apply Bool.eq_false_iff.2
    intro same
    rw [beq_iff_eq.1 same] at escaped
    exact nomatch escaped
  rw [tokens?_silent (.backslash units) rfl, tokens?_silent]
  simp [Scan.step, other, escaped]

theorem unitsOf_of_lt {c : Char} (small : c.toNat < 0x10000) : unitsOf c = [c.toNat] := by
  simp [unitsOf, small]

theorem not_surrogate (c : Char) : c.toNat < 0xD800 ∨ 0xDFFF < c.toNat ∧ c.toNat < 0x110000 :=
  c.valid

/-- The four ways in which a character is written. -/
theorem charText_cases (c : Char) :
    (∃ mark, charText c = ['\\', mark] ∧ escaped? mark = some c.toNat ∧ mark.toNat < 128 ∧
      c.toNat < 128) ∨
    (charText c = [c] ∧ c ≠ '"' ∧ c ≠ '\\' ∧ 32 ≤ c.toNat ∧ c.toNat < 128) ∨
    (charText c = unitEscape c.toNat ∧ c.toNat < 0x10000) ∨
    (charText c = unitEscape (0xD800 + (c.toNat - 0x10000) / 1024) ++
        unitEscape (0xDC00 + (c.toNat - 0x10000) % 1024) ∧ 0x10000 ≤ c.toNat) := by
  have ofCode : ∀ n, (c.toNat == n) = true → c = Char.ofNat n := fun n code => by
    rw [← beq_iff_eq.1 code, Char.ofNat_toNat]
  simp only [charText]
  split
  case isTrue quoted =>
    simp only [Bool.or_eq_true, beq_iff_eq] at quoted
    rcases quoted with rfl | rfl <;> exact .inl ⟨_, rfl, rfl, by decide, by decide⟩
  case isFalse plain =>
    split
    case isTrue same => rw [beq_iff_eq.1 same]; exact .inl ⟨_, rfl, rfl, by decide, by decide⟩
    split
    case isTrue same => rw [beq_iff_eq.1 same]; exact .inl ⟨_, rfl, rfl, by decide, by decide⟩
    split
    case isTrue same => rw [beq_iff_eq.1 same]; exact .inl ⟨_, rfl, rfl, by decide, by decide⟩
    split
    case isTrue same => rw [ofCode 8 same]; exact .inl ⟨_, rfl, rfl, by decide, by decide⟩
    split
    case isTrue same => rw [ofCode 12 same]; exact .inl ⟨_, rfl, rfl, by decide, by decide⟩
    split
    case isTrue printed =>
      simp only [Bool.and_eq_true, decide_eq_true_eq] at printed
      simp only [Bool.or_eq_true, beq_iff_eq, not_or] at plain
      exact .inr (.inl ⟨rfl, plain.1, plain.2, printed.1, by omega⟩)
    split
    case isTrue small => exact .inr (.inr (.inl ⟨rfl, small⟩))
    case isFalse large => exact .inr (.inr (.inr ⟨rfl, by omega⟩))

/-- What is written for a character stands for its UTF-16 units. -/
theorem tokens?_charText (units : List Nat) (c : Char) (rest : List Char) :
    tokens? (.string units) (charText c ++ rest) =
      tokens? (.string ((unitsOf c).reverse ++ units)) rest := by
  have bound := not_surrogate c
  rcases charText_cases c with ⟨mark, written, escaped, -, small⟩ |
    ⟨written, notQuote, notBackslash, printed, small⟩ | ⟨written, small⟩ | ⟨written, large⟩
  · rw [written, unitsOf_of_lt (by omega)]
    exact tokens?_escaped units escaped rest
  · have notControl : ¬ c.toNat < 32 := by omega
    rw [written]
    apply tokens?_silent
    simp [Scan.step, notQuote, notBackslash, notControl]
  · rw [written, unitsOf_of_lt small]
    exact tokens?_unitEscape units _ small rest
  · rw [written, List.append_assoc, tokens?_unitEscape _ _ (by omega),
      tokens?_unitEscape _ _ (by omega), unitsOf, if_neg (by omega)]
    rfl

/-- Units of characters are read as these characters. -/
theorem textOfUnits?_unitsOf (c : Char) (units : List Nat) :
    textOfUnits? (unitsOf c ++ units) = (textOfUnits? units).map (c :: ·) := by
  by_cases small : c.toNat < 0x10000
  · have outside : (decide (c.toNat < 0xD800) || decide (0xE000 ≤ c.toNat)) = true := by
      have bound := not_surrogate c
      simp only [Bool.or_eq_true, decide_eq_true_eq]
      omega
    rw [unitsOf_of_lt small, List.singleton_append, textOfUnits?.eq_def]
    simp only [outside, if_true, Char.ofNat_toNat]
  · have bound := not_surrogate c
    have code : 0x10000 + (0xD800 + (c.toNat - 0x10000) / 1024 - 0xD800) * 1024 +
        (0xDC00 + (c.toNat - 0x10000) % 1024 - 0xDC00) = c.toNat := by omega
    have high : (decide (0xD800 + (c.toNat - 0x10000) / 1024 < 0xD800) ||
        decide (0xE000 ≤ 0xD800 + (c.toNat - 0x10000) / 1024)) = false := by
      simp only [Bool.or_eq_false_iff, decide_eq_false_iff_not]
      omega
    have pair : (decide (0xD800 + (c.toNat - 0x10000) / 1024 < 0xDC00) &&
        decide (0xDC00 ≤ 0xDC00 + (c.toNat - 0x10000) % 1024) &&
        decide (0xDC00 + (c.toNat - 0x10000) % 1024 < 0xE000)) = true := by
      simp only [Bool.and_eq_true, decide_eq_true_eq]
      omega
    simp only [unitsOf, if_neg small, List.cons_append, List.nil_append, textOfUnits?, high, pair,
      code, Char.ofNat_toNat, Bool.false_eq_true, if_false, if_true]

theorem textOfUnits?_flatMap (text : List Char) :
    textOfUnits? (text.flatMap unitsOf) = some text := by
  induction text with
  | nil => rfl
  | cons c rest ih => simp [textOfUnits?_unitsOf, ih]

theorem tokens?_flatMap_charText (units : List Nat) (text rest : List Char) :
    tokens? (.string units) (text.flatMap charText ++ rest) =
      tokens? (.string ((text.flatMap unitsOf).reverse ++ units)) rest := by
  induction text generalizing units with
  | nil => rfl
  | cons c text ih =>
    rw [List.flatMap_cons, List.append_assoc, tokens?_charText, ih]
    simp

/-- A string is read back. -/
theorem tokens?_stringText (text : String) (rest : List Char) :
    tokens? .between (stringText text ++ rest) =
      (tokens? .between rest).map (.scalar (.string text) :: ·) := by
  have opened : stringText text ++ rest =
      '"' :: (text.toList.flatMap charText ++ '"' :: rest) := by
    simp [stringText]
  rw [opened, tokens?_silent (.string []) rfl, tokens?_flatMap_charText, List.append_nil]
  apply tokens?_token
  simp only [Scan.step, List.reverse_reverse, textOfUnits?_flatMap, Option.map_some,
    String.ofList_toList, beq_self_eq_true, if_true]

end Strings

section Numbers

def pointed (negative : Bool) (whole part : List Char) : List Char :=
  (if negative then ['-'] else []) ++ (whole ++ if part = [] then [] else '.' :: part)

theorem scaled_zero (mantissa : Int) (places : Nat) :
    scaled mantissa places 0 = .number mantissa places := by
  have noShift : (0 - (places : Int)).toNat = 0 := by omega
  have samePlaces : ((places : Int) - 0).toNat = places := by omega
  rw [scaled, noShift, samePlaces]
  simp [Nat.pow]

theorem fraction?_point (part : List Char) (digits : ∀ c ∈ part, c.isDigit = true) :
    fraction? (if part = [] then [] else '.' :: part) = some (part, []) := by
  by_cases empty : part = []
  · simp [empty, fraction?]
  · have all : part.takeWhile Char.isDigit = part := List.takeWhile_eq_self_iff.2 digits
    have none : part.dropWhile Char.isDigit = [] := List.dropWhile_eq_nil_iff.2 digits
    simp [fraction?, all, none, empty]

/-- A number written with digits on both sides of its point is read as its value, whatever its sign.
-/
theorem number?_pointed (negative : Bool) (whole part : List Char) (present : whole ≠ [])
    (digits : ∀ c ∈ whole ++ part, c.isDigit = true)
    (lead : whole.head? = some '0' → whole.length = 1) :
    number? (pointed negative whole part) =
      some (.number
        (if negative then -(Nat.ofDigitChars 10 (whole ++ part) 0 : Int)
          else Nat.ofDigitChars 10 (whole ++ part) 0) part.length) := by
  have wholeDigits : ∀ c ∈ whole, c.isDigit = true := fun c listed =>
    digits c (List.mem_append_left _ listed)
  have partDigits : ∀ c ∈ part, c.isDigit = true := fun c listed =>
    digits c (List.mem_append_right _ listed)
  have taken : (whole ++ if part = [] then [] else '.' :: part).takeWhile Char.isDigit =
      whole := by
    rw [List.takeWhile_append_of_pos wholeDigits]
    split <;> simp
  have left : (whole ++ if part = [] then [] else '.' :: part).dropWhile Char.isDigit =
      if part = [] then [] else '.' :: part := by
    rw [List.dropWhile_append_of_pos wholeDigits]
    split <;> simp
  have valid : (whole.isEmpty || (decide (whole.head? = some '0') && decide (whole.length ≠ 1))) =
      false := by
    simpa [present] using lead
  have sign : ((pointed negative whole part).head? = some '-') = (negative = true) := by
    obtain ⟨first, others, rfl⟩ := List.exists_cons_of_ne_nil present
    have notSign : first ≠ '-' := by
      rintro rfl
      exact absurd (wholeDigits '-' List.mem_cons_self) (by decide)
    cases negative <;> simp [pointed, notSign]
  have unsigned : (if negative = true then (pointed negative whole part).drop 1
      else pointed negative whole part) = whole ++ if part = [] then [] else '.' :: part := by
    cases negative <;> rfl
  simp only [number?, sign, unsigned, taken, left, valid, Bool.false_eq_true, if_false,
    fraction?_point part partDigits, Option.bind_some, exponent?, Option.map_some, scaled_zero]

theorem toDigits_lead {n : Nat} (positive : 0 < n) : (Nat.toDigits 10 n).head? ≠ some '0' := by
  induction n using Nat.strongRecOn with
  | ind n ih =>
    rw [Nat.toDigits_eq_if (by decide)]
    split
    case isTrue small =>
      have different : n ≠ 0 := by omega
      simpa using different
    case isFalse large =>
      obtain ⟨first, others, digits⟩ := 
        List.exists_cons_of_ne_nil (Nat.toDigits_ne_nil (n := n / 10) (b := 10))
      have upper := ih (n / 10) (by omega) (by omega)
      rw [digits] at upper ⊢
      exact upper

/-- The digits of a number, with zeros in front of one that would start with its point. -/
def paddedDigits (size places : Nat) : List Char :=
  let digits := Nat.toDigits 10 size
  List.replicate (places + 1 - digits.length) '0' ++ digits

theorem isDigit_of_mem_paddedDigits {size places : Nat} {c : Char}
    (listed : c ∈ paddedDigits size places) : c.isDigit = true := by
  rcases List.mem_append.1 listed with padding | digit
  · rw [(List.mem_replicate.1 padding).2]
    rfl
  · exact Nat.isDigit_of_mem_toDigits (by decide) (by decide) digit

theorem length_paddedDigits (size places : Nat) : places < (paddedDigits size places).length := by
  simp only [paddedDigits, List.length_append, List.length_replicate]
  omega

theorem ofDigitChars_paddedDigits (size places : Nat) :
    Nat.ofDigitChars 10 (paddedDigits size places) 0 = size := by
  rw [paddedDigits, Nat.ofDigitChars_append, Nat.ofDigitChars_replicate_zero, Nat.mul_zero,
    Nat.ofDigitChars_ten_toDigits]

/-- A zero stands in front of the point only on its own. -/
theorem length_eq_one_of_lead {size places : Nat} {whole part : List Char}
    (joined : whole ++ part = paddedDigits size places) (partLength : part.length = places)
    (lead : whole.head? = some '0') : whole.length = 1 := by
  have length := congrArg List.length joined
  simp only [paddedDigits, List.length_append, List.length_replicate] at length
  by_cases padded : (Nat.toDigits 10 size).length ≤ places + 1
  · omega
  · have bare : whole ++ part = Nat.toDigits 10 size := by
      rw [joined, paddedDigits, Nat.sub_eq_zero_of_le (by omega)]
      rfl
    have first : (Nat.toDigits 10 size).head? = some '0' := by
      rw [← bare, List.head?_append, lead]
      rfl
    have zero : size = 0 := by
      by_contra positive
      exact toDigits_lead (Nat.pos_of_ne_zero positive) first
    rw [zero, Nat.toDigits_zero] at padded
    exact absurd (Nat.le_add_left 1 places) padded

/-- A number is written as its padded digits, with a point in front of its places. -/
theorem numberText_eq_pointed (mantissa : Int) (places : Nat) :
    ∃ whole part : List Char, whole ++ part = paddedDigits mantissa.natAbs places ∧
      part.length = places ∧
      numberText mantissa places = pointed (decide (mantissa < 0)) whole part := by
  have enough := length_paddedDigits mantissa.natAbs places
  refine ⟨_, _, List.take_append_drop
    ((paddedDigits mantissa.natAbs places).length - places) _, ?_, ?_⟩
  · rw [List.length_drop]
    omega
  · have noPart : ((paddedDigits mantissa.natAbs places).drop
        ((paddedDigits mantissa.natAbs places).length - places) = []) ↔ places = 0 := by
      rw [List.drop_eq_nil_iff]
      omega
    simp only [pointed, noPart, decide_eq_true_eq, ← List.append_assoc]
    rfl

/-- A number is read back. -/
theorem number?_numberText (mantissa : Int) (places : Nat) :
    number? (numberText mantissa places) = some (.number mantissa places) := by
  obtain ⟨whole, part, joined, partLength, written⟩ := numberText_eq_pointed mantissa places
  have enough := length_paddedDigits mantissa.natAbs places
  have present : whole ≠ [] := by
    rintro rfl
    rw [← joined, List.nil_append] at enough
    omega
  have size : (if decide (mantissa < 0) then -(mantissa.natAbs : Int) else mantissa.natAbs) =
      mantissa := by
    by_cases below : mantissa < 0
    · rw [if_pos (decide_eq_true below)]
      omega
    · rw [if_neg (by simp [below])]
      omega
  rw [written, number?_pointed _ whole part present
    (fun c listed => isDigit_of_mem_paddedDigits (joined ▸ listed))
    (length_eq_one_of_lead joined partLength), joined, ofDigitChars_paddedDigits, size, partLength]

end Numbers

section Words

/-- No word goes on into the text. -/
def Stops (text : List Char) : Prop :=
  ∀ c ∈ text.head?, isWordChar c = false

theorem isWordChar_of_isDigit {c : Char} (digit : c.isDigit = true) : isWordChar c = true := by
  simp [isWordChar, Char.isAlphanum, digit]

theorem not_isWordChar_of_isSpace {c : Char} (space : isSpace c = true) :
    isWordChar c = false := by
  simp only [isSpace, Bool.or_eq_true, beq_iff_eq] at space
  rcases space with ((rfl | rfl) | rfl) | rfl <;> rfl

/-- Between tokens, a character of words begins a word. -/
theorem step_word {c : Char} (word : isWordChar c = true) :
    Scan.between.step c = some (.word [c], []) := by
  have notSpace : isSpace c = false := by
    apply Bool.eq_false_iff.2
    intro space
    rw [not_isWordChar_of_isSpace space] at word
    exact Bool.false_ne_true word
  have notQuote : (c == '"') = false := by
    apply Bool.eq_false_iff.2
    intro quote
    rw [beq_iff_eq.1 quote] at word
    exact absurd word (by decide)
  simp [Scan.step, Scan.start, notSpace, notQuote, word]

theorem tokens?_append_word (before word rest : List Char)
    (chars : ∀ c ∈ word, isWordChar c = true) :
    tokens? (.word before) (word ++ rest) = tokens? (.word (word.reverse ++ before)) rest := by
  induction word generalizing before with
  | nil => rfl
  | cons c others ih =>
    have more : (Scan.word before).step c = some (.word (c :: before), []) := by
      simp [Scan.step, chars c List.mem_cons_self]
    rw [List.cons_append, tokens?_silent _ more,
      ih _ fun other listed => chars other (List.mem_cons_of_mem _ listed)]
    simp

/-- A word is read as a whole. -/
theorem tokens?_word {word : List Char} {value : Value} (present : word ≠ [])
    (chars : ∀ c ∈ word, isWordChar c = true) (read : word? word = some value) {rest : List Char}
    (stops : Stops rest) :
    tokens? .between (word ++ rest) = (tokens? .between rest).map (.scalar value :: ·) := by
  obtain ⟨first, others, rfl⟩ := List.exists_cons_of_ne_nil present
  have begun := step_word (chars first List.mem_cons_self)
  rw [List.cons_append, tokens?_silent _ begun,
    tokens?_append_word _ _ _ fun c listed => chars c (List.mem_cons_of_mem _ listed)]
  have whole : (others.reverse ++ [first]).reverse = first :: others := by simp
  cases rest with
  | nil => simp [tokens?, whole, read]
  | cons c rest =>
    have ended : isWordChar c = false := stops c rfl
    rw [tokens?_cons, tokens?_cons]
    simp only [Scan.step, ended, whole, read, Bool.false_eq_true, if_false, Option.bind_some]
    cases Scan.start c <;> simp [Function.comp_def]

/-- A number is written in characters of words only, so it is read as one word. -/
theorem isWordChar_of_mem_numberText {mantissa : Int} {places : Nat} {c : Char}
    (listed : c ∈ numberText mantissa places) : isWordChar c = true := by
  obtain ⟨whole, part, joined, -, written⟩ := numberText_eq_pointed mantissa places
  have digits : ∀ c ∈ whole ++ part, isWordChar c = true := fun c listed =>
    isWordChar_of_isDigit (isDigit_of_mem_paddedDigits (joined ▸ listed))
  rw [written, pointed] at listed
  rcases List.mem_append.1 listed with sign | listed
  · split at sign
    · rw [List.mem_singleton.1 sign]
      rfl
    · exact absurd sign List.not_mem_nil
  · rcases List.mem_append.1 listed with digit | listed
    · exact digits c (List.mem_append_left _ digit)
    · split at listed
      · exact absurd listed List.not_mem_nil
      · rcases List.mem_cons.1 listed with rfl | digit
        · rfl
        · exact digits c (List.mem_append_right _ digit)

/-- A number is one word. -/
theorem tokens?_numberText (mantissa : Int) (places : Nat) {rest : List Char}
    (stops : Stops rest) :
    tokens? .between (numberText mantissa places ++ rest) =
      (tokens? .between rest).map (.scalar (.number mantissa places) :: ·) := by
  have read := number?_numberText mantissa places
  apply tokens?_word _ (fun c => isWordChar_of_mem_numberText) _ stops
  · intro empty
    rw [empty] at read
    exact nomatch read
  · rw [word?, read]
    rfl

end Words

section Ascii

def IsAscii (text : List Char) : Prop :=
  ∀ c ∈ text, c.toNat < 128

@[simp] theorem isAscii_nil : IsAscii [] :=
  fun _ listed => absurd listed List.not_mem_nil

@[simp] theorem isAscii_append {text rest : List Char} :
    IsAscii (text ++ rest) ↔ IsAscii text ∧ IsAscii rest := by
  simp only [IsAscii, List.mem_append, or_imp, forall_and]

@[simp] theorem isAscii_cons {c : Char} {rest : List Char} :
    IsAscii (c :: rest) ↔ c.toNat < 128 ∧ IsAscii rest := by
  simp [IsAscii]

theorem isAscii_unitEscape (unit : Nat) (small : unit < 65536) : IsAscii (unitEscape unit) := by
  have digits : ∀ digit < 16, (Nat.digitChar digit).toNat < 128 := by decide
  rw [unitEscape, Text.hexDigits_four unit small]
  intro c listed
  simp only [List.map_cons, List.map_nil, List.cons_append, List.nil_append, List.mem_cons,
    List.not_mem_nil, or_false] at listed
  rcases listed with rfl | rfl | rfl | rfl | rfl | rfl
  · decide
  · decide
  all_goals exact digits _ (by omega)

theorem isAscii_charText (c : Char) : IsAscii (charText c) := by
  have bound := not_surrogate c
  rcases charText_cases c with ⟨mark, written, -, small, -⟩ | ⟨written, -, -, -, small⟩ |
    ⟨written, small⟩ | ⟨written, large⟩
  · rw [written]
    simp [small]
  · rw [written]
    simp [small]
  · rw [written]
    exact isAscii_unitEscape _ small
  · rw [written]
    exact isAscii_append.2 ⟨isAscii_unitEscape _ (by omega), isAscii_unitEscape _ (by omega)⟩

theorem isAscii_stringText (text : String) : IsAscii (stringText text) := by
  have chars : IsAscii (text.toList.flatMap charText) := by
    intro c listed
    obtain ⟨source, -, written⟩ := List.mem_flatMap.1 listed
    exact isAscii_charText source c written
  simp [stringText, chars]

theorem toNat_lt_of_isWordChar {c : Char} (word : isWordChar c = true) : c.toNat < 128 := by
  have bounded : ∀ last : Char, last.toNat < 128 → c ≤ last → c.toNat < 128 :=
    fun _ small le => Nat.lt_of_le_of_lt le small
  simp only [isWordChar, Bool.or_eq_true, beq_iff_eq] at word
  rcases word with ((alphanumeric | rfl) | rfl) | rfl
  · rcases (Bool.or_eq_true_iff ..).1 alphanumeric with letter | digit
    · rcases (Bool.or_eq_true_iff ..).1 letter with upper | lower
      · exact bounded 'Z' (by decide) (of_decide_eq_true upper).2
      · exact bounded 'z' (by decide) (of_decide_eq_true (Bool.and_eq_true_iff.1 lower).2)
    · exact bounded '9' (by decide) (of_decide_eq_true (Bool.and_eq_true_iff.1 digit).2)
  all_goals decide

end Ascii

end Json

end EndpointDocs
