import EndpointDocs.Text.Blank
import EndpointDocs.Text.Word

/-!
Tokens of running text: identifiers, numbers, quoted strings, and every other character that is not
blank by itself. Blanks outside quoted strings only separate tokens.
-/
namespace EndpointDocs.Token

/-- The text up to and with the quote that closes a string, and what follows. A backslash keeps the
next character from closing it; the string must end on its line. -/
def closeQuote? : List Char → Option (List Char × List Char)
  | [] => none
  | '"' :: rest => some (['"'], rest)
  | '\\' :: c :: rest =>
    if c == '\n' then none
    else (closeQuote? rest).map fun (inside, rest) => ('\\' :: c :: inside, rest)
  | c :: rest =>
    if c == '\n' || c == '\\' then none
    else (closeQuote? rest).map fun (inside, rest) => (c :: inside, rest)

/-- A number and what follows: digits, and a point with more digits after it if there are any. -/
def number (text : List Char) : List Char × List Char :=
  let whole := text.takeWhile Text.isDigit
  match text.dropWhile Text.isDigit with
  | '.' :: c :: rest =>
    if Text.isDigit c then
      (whole ++ '.' :: (c :: rest).takeWhile Text.isDigit, (c :: rest).dropWhile Text.isDigit)
    else (whole, '.' :: c :: rest)
  | rest => (whole, rest)

/-- The first token of a text that starts with `c`, which is not blank, and what follows. -/
def first (c : Char) (rest : List Char) : List Char × List Char :=
  if Text.isDigit c then number (c :: rest)
  else if Text.isWord c then (c :: rest.takeWhile Text.isWord, rest.dropWhile Text.isWord)
  else if c == '"' then
    match closeQuote? rest with
    | some (inside, rest) => (c :: inside, rest)
    | none => ([c], rest)
  else ([c], rest)

theorem closeQuote?_length_le {text inside rest : List Char}
    (closed : closeQuote? text = some (inside, rest)) : rest.length ≤ text.length := by
  fun_induction closeQuote? text generalizing inside rest with
  | case1 => simp at closed
  | case2 tail => simp_all
  | case3 => simp at closed
  | case4 c tail notBreak ih =>
    obtain ⟨pair, found, same⟩ := Option.map_eq_some_iff.1 closed
    have shorter : pair.2.length ≤ tail.length := ih (by simpa using found)
    simp only [Prod.mk.injEq] at same
    simp only [List.length_cons, ← same.2]
    omega
  | case5 => simp at closed
  | case6 c tail _ _ notBreak ih =>
    obtain ⟨pair, found, same⟩ := Option.map_eq_some_iff.1 closed
    have shorter : pair.2.length ≤ tail.length := ih (by simpa using found)
    simp only [Prod.mk.injEq] at same
    simp only [List.length_cons, ← same.2]
    omega

theorem length_dropWhile_le (p : Char → Bool) (text : List Char) :
    (text.dropWhile p).length ≤ text.length :=
  (List.dropWhile_sublist p).length_le

theorem number_length_le (c : Char) (rest : List Char) (digit : Text.isDigit c) :
    (number (c :: rest)).2.length ≤ rest.length := by
  have short := length_dropWhile_le Text.isDigit rest
  have same : (c :: rest).dropWhile Text.isDigit = rest.dropWhile Text.isDigit := by simp [digit]
  simp only [number, same]
  split
  · rename_i d tail shape
    rw [shape] at short
    simp only [List.length_cons] at short
    split
    · have shorter := length_dropWhile_le Text.isDigit (d :: tail)
      simp only [List.length_cons] at shorter
      show ((d :: tail).dropWhile Text.isDigit).length ≤ rest.length
      omega
    · simp only [List.length_cons]
      omega
  · exact short

theorem first_length_le (c : Char) (rest : List Char) : (first c rest).2.length ≤ rest.length := by
  unfold first
  split
  · rename_i digit
    exact number_length_le c rest digit
  · split
    · exact length_dropWhile_le _ _
    · split
      · split
        · rename_i closed
          exact closeQuote?_length_le closed
        · exact Nat.le_refl _
      · exact Nat.le_refl _

def scan : List Char → List (List Char)
  | [] => []
  | c :: rest =>
    if Text.isBlank c then scan rest
    else (first c rest).1 :: scan (first c rest).2
termination_by text => text.length
decreasing_by
  · simp
  · have := first_length_le c rest
    simp only [List.length_cons]
    omega

theorem number_ne_nil (c : Char) (rest : List Char) (digit : Text.isDigit c) :
    (number (c :: rest)).1 ≠ [] := by
  unfold number
  split
  · split <;> simp [digit]
  · simp [digit]

theorem first_ne_nil (c : Char) (rest : List Char) : (first c rest).1 ≠ [] := by
  unfold first
  split
  · rename_i digit
    exact number_ne_nil c rest digit
  · split
    · simp
    · split
      · split <;> simp
      · simp

theorem ne_nil_of_mem_scan {text token : List Char} (scanned : token ∈ scan text) : token ≠ [] := by
  fun_induction scan text with
  | case1 => cases scanned
  | case2 c rest blank ih => exact ih scanned
  | case3 c rest notBlank ih =>
    rcases List.mem_cons.1 scanned with rfl | later
    · exact first_ne_nil c rest
    · exact ih later

def tokens (text : String) : List String :=
  (scan text.toList).map String.ofList

theorem ne_empty_of_mem_tokens {text token : String} (scanned : token ∈ tokens text) :
    token ≠ "" := by
  obtain ⟨chars, listed, rfl⟩ := List.mem_map.1 scanned
  simpa using ne_nil_of_mem_scan listed

end EndpointDocs.Token
