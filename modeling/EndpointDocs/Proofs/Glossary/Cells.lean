import EndpointDocs.Glossary.Csv
import EndpointDocs.Proofs.Text.Cut
import EndpointDocs.Proofs.Text.Lines

/-!
Reading cells and rows as they are written. A quoted cell, in which each quote is doubled, is read
as its text whatever characters it has; a row without quotes is read as its pieces between commas.
The row ends at its terminator, and the reading then stands between two rows.
-/
namespace EndpointDocs.Csv

/-- A character as it is written between quotes: a quote is doubled. -/
def quoteChar (c : Char) : List Char :=
  if c = '"' then ['"', '"'] else [c]

def quoteCell (text : List Char) : List Char :=
  '"' :: (text.flatMap quoteChar ++ ['"'])

/-- Whether a character has no meaning of its own outside quotes, commas aside. -/
def isPlain (c : Char) : Bool :=
  c != '"' && c != '\n' && c != '\r'

namespace Reading

/-- Inside a row: the cell and the cells before it, newest first. -/
def within (mode : Mode) (cell : List Char) (row : List String) (rows : List (List String)) :
    Reading :=
  ⟨mode, cell, cell.length, row, rows, false, false⟩

def between (rows : List (List String)) (afterReturn : Bool) : Reading :=
  ⟨.rowStart, [], 0, [], rows, afterReturn, false⟩

variable {mode : Mode} {cell : List Char} {row : List String} {rows : List (List String)} {c : Char}

theorem push_within (fits : cell.length < maxCell) (next : Mode) (c : Char) :
    (within mode cell row rows).push next c = within next (c :: cell) row rows := by
  have short : ¬ maxCell ≤ cell.length := by omega
  simp [push, within, short]

theorem step_opening (start : mode = .rowStart ∨ mode = .cellStart) :
    (within mode cell row rows).step '"' = within .quoted cell row rows := by
  rcases start with rfl | rfl <;> rfl

theorem step_quoted (other : c ≠ '"') (fits : cell.length < maxCell) :
    (within .quoted cell row rows).step c = within .quoted (c :: cell) row rows := by
  calc (within .quoted cell row rows).step c
      = (within .quoted cell row rows).push .quoted c := by simp [step, within, other]
    _ = within .quoted (c :: cell) row rows := push_within fits .quoted c

theorem step_closing :
    (within .quoted cell row rows).step '"' = within .quoteSeen cell row rows :=
  rfl

theorem step_doubled (fits : cell.length < maxCell) :
    (within .quoteSeen cell row rows).step '"' = within .quoted ('"' :: cell) row rows :=
  push_within fits .quoted '"'

theorem step_comma (unquoted : mode ≠ .quoted) :
    (within mode cell row rows).step ',' =
      within .cellStart [] (String.ofList cell.reverse :: row) rows := by
  cases mode with
  | quoted => exact absurd rfl unquoted
  | _ => rfl

theorem step_plain (start : mode = .rowStart ∨ mode = .cellStart ∨ mode = .cell)
    (plain : isPlain c = true) (noComma : c ≠ ',') (fits : cell.length < maxCell) :
    (within mode cell row rows).step c = within .cell (c :: cell) row rows := by
  simp only [isPlain, Bool.and_eq_true, bne_iff_ne] at plain
  calc (within mode cell row rows).step c
      = (within mode cell row rows).push .cell c := by
        rcases start with rfl | rfl | rfl <;> simp [step, within, plain, noComma]
    _ = within .cell (c :: cell) row rows := push_within fits .cell c

/-- A terminator ends the cell and the row. -/
theorem foldl_terminator (begun : mode ≠ .rowStart) (unquoted : mode ≠ .quoted)
    (terminator : Text.Terminator) :
    terminator.chars.foldl step (within mode cell row rows) =
      between ((String.ofList cell.reverse :: row).reverse :: rows)
        (terminator == .carriageReturn) := by
  cases mode with
  | rowStart => exact absurd rfl begun
  | quoted => exact absurd rfl unquoted
  | _ => cases terminator <;> rfl

/-- Only a line feed minds a carriage return before it. -/
theorem step_between (notFeed : c ≠ '\n') (afterReturn : Bool) :
    (between rows afterReturn).step c = (within .rowStart [] [] rows).step c := by
  simp [step, between, within, notFeed]

theorem foldl_quoteChar (fits : cell.length < maxCell) (c : Char) :
    (quoteChar c).foldl step (within .quoted cell row rows) =
      within .quoted (c :: cell) row rows := by
  unfold quoteChar
  split
  · rename_i quote
    subst quote
    rw [List.foldl_cons, step_closing, List.foldl_cons, step_doubled fits, List.foldl_nil]
  · rename_i other
    rw [List.foldl_cons, step_quoted other fits, List.foldl_nil]

/-- What stands between the quotes of a cell is read as the cell's text. -/
theorem foldl_quoteChars (text : List Char) (fits : cell.length + text.length ≤ maxCell) :
    (text.flatMap quoteChar).foldl step (within .quoted cell row rows) =
      within .quoted (text.reverse ++ cell) row rows := by
  induction text generalizing cell with
  | nil => rfl
  | cons c text ih =>
    rw [List.length_cons] at fits
    rw [List.flatMap_cons, List.foldl_append, foldl_quoteChar (by omega),
      ih (by rw [List.length_cons]; omega), List.reverse_cons, List.append_assoc,
      List.singleton_append]

theorem foldl_quoteCell (start : mode = .rowStart ∨ mode = .cellStart) {text : List Char}
    (fits : text.length ≤ maxCell) :
    (quoteCell text).foldl step (within mode [] row rows) =
      within .quoteSeen text.reverse row rows := by
  rw [quoteCell, List.foldl_cons, step_opening start, List.foldl_append,
    foldl_quoteChars text (by simpa using fits), List.append_nil, List.foldl_cons, step_closing,
    List.foldl_nil]

/-- A row of two quoted cells is read as their texts. -/
theorem foldl_quotedRow (rows : List (List String)) {first second : List Char}
    (firstFits : first.length ≤ maxCell) (secondFits : second.length ≤ maxCell)
    (terminator : Text.Terminator) (afterReturn : Bool) :
    (quoteCell first ++ ',' :: quoteCell second ++ terminator.chars).foldl step
        (between rows afterReturn) =
      between ([String.ofList first, String.ofList second] :: rows)
        (terminator == .carriageReturn) := by
  have cleared : (quoteCell first).foldl step (between rows afterReturn) =
      (quoteCell first).foldl step (within .rowStart [] [] rows) := by
    rw [quoteCell, List.foldl_cons, List.foldl_cons, step_between (by decide)]
  rw [List.foldl_append, List.foldl_append, cleared, foldl_quoteCell (.inl rfl) firstFits,
    List.foldl_cons, step_comma (by decide), foldl_quoteCell (.inr rfl) secondFits,
    foldl_terminator (by decide) (by decide)]
  simp

/-- The rest of a row without quotes is read as its pieces between commas; the first of them goes on
with the cell that was begun. -/
theorem foldl_plainRest {text : List Char} (plain : ∀ c ∈ text, isPlain c = true)
    (start : mode = .rowStart ∧ text ≠ [] ∨ mode = .cellStart ∨ mode = .cell)
    (fits : cell.length + text.length ≤ maxCell) (terminator : Text.Terminator) :
    (text ++ terminator.chars).foldl step (within mode cell row rows) =
      between ((row.reverse ++
        ((text.splitOn ',').modifyHead (cell.reverse ++ ·)).map String.ofList) :: rows)
        (terminator == .carriageReturn) := by
  induction text generalizing mode cell row with
  | nil =>
    have ended : mode = .cellStart ∨ mode = .cell := start.resolve_left fun first => first.2 rfl
    rw [List.nil_append, foldl_terminator]
    · simp
    · rcases ended with rfl | rfl <;> decide
    · rcases ended with rfl | rfl <;> decide
  | cons c text ih =>
    obtain ⟨here, later⟩ := List.forall_mem_cons.1 plain
    have unquoted : mode = .rowStart ∨ mode = .cellStart ∨ mode = .cell :=
      start.imp_left And.left
    rw [List.length_cons] at fits
    rw [List.cons_append, List.foldl_cons, List.splitOn, List.splitOnP_cons_eq_if_modifyHead,
      ← List.splitOn]
    by_cases comma : c = ','
    · subst comma
      have notQuoted : mode ≠ .quoted := by rcases unquoted with rfl | rfl | rfl <;> decide
      rw [step_comma notQuoted, ih later (.inr (.inl rfl)) (by rw [List.length_nil]; omega)]
      cases text.splitOn ',' <;> simp
    · rw [step_plain unquoted here comma (by omega),
        ih later (.inr (.inr rfl)) (by rw [List.length_cons]; omega)]
      cases text.splitOn ',' <;> simp [comma]

/-- A row without quotes is read as cells, the first of which is what comes before the first
comma. -/
theorem foldl_plainRow (rows : List (List String)) {text : List Char} (nonempty : text ≠ [])
    (plain : ∀ c ∈ text, isPlain c = true) (fits : text.length ≤ maxCell)
    (terminator : Text.Terminator) (afterReturn : Bool) :
    ∃ others, (text ++ terminator.chars).foldl step (between rows afterReturn) =
      between ((String.ofList (Text.before ',' text) :: others) :: rows)
        (terminator == .carriageReturn) := by
  obtain ⟨first, rest, rfl⟩ := List.exists_cons_of_ne_nil nonempty
  have notFeed : first ≠ '\n' := by
    rintro rfl
    exact absurd (plain _ List.mem_cons_self) (by decide)
  obtain ⟨others, split⟩ := Text.splitOn_eq_before_cons ',' (first :: rest)
  have read : (first :: rest ++ terminator.chars).foldl step (within .rowStart [] [] rows) = _ :=
    foldl_plainRest plain (.inl ⟨rfl, nonempty⟩) (by simpa using fits) terminator
  rw [split] at read
  refine ⟨others.map String.ofList, ?_⟩
  rw [List.cons_append, List.foldl_cons, step_between notFeed]
  simpa using read

/-- A row with nothing on it is an empty row, or none at all where its terminator completes that of
the row before. -/
theorem foldl_emptyRow (rows : List (List String)) (terminator : Text.Terminator)
    (afterReturn : Bool) :
    ∃ ended, terminator.chars.foldl step (between rows afterReturn) = between rows ended ∨
      terminator.chars.foldl step (between rows afterReturn) = between ([] :: rows) ended := by
  cases terminator with
  | lineFeed =>
    cases afterReturn with
    | true => exact ⟨false, .inl rfl⟩
    | false => exact ⟨false, .inr rfl⟩
  | carriageReturn => exact ⟨true, .inr (by cases afterReturn <;> rfl)⟩
  | returnAndFeed => exact ⟨false, .inr (by cases afterReturn <;> rfl)⟩

end Reading

end EndpointDocs.Csv
