import EndpointDocs.Text.Cut
import EndpointDocs.Text.Lines

/-!
Writing lines and reading them back. A text has one kind of terminator between its lines, and may
have one more at its end; making every break a line feed and cutting at line ends gives the lines
back, and an empty one more where the text ends in a terminator.
-/
namespace EndpointDocs.Text

/-- How the lines of a file are ended. -/
inductive Terminator where
  | lineFeed
  | carriageReturn
  | returnAndFeed
  deriving DecidableEq, Repr

def Terminator.chars : Terminator → List Char
  | .lineFeed => ['\n']
  | .carriageReturn => ['\r']
  | .returnAndFeed => ['\r', '\n']

/-- The text of lines, with a terminator between neighbours, and one at the end if it is
`closed`. -/
def ofLines (terminator : Terminator) (closed : Bool) (lines : List String) : List Char :=
  joinWith terminator.chars (lines.map String.toList) ++ if closed then terminator.chars else []

/-- Whether a text has no character that ends a line. -/
def isLine (text : List Char) : Bool :=
  text.all (!isLineEnd ·)

theorem ne_break_of_isLine {line : List Char} (whole : isLine line = true) {c : Char}
    (inside : c ∈ line) : c ≠ '\r' ∧ c ≠ '\n' := by
  have notEnd : isLineEnd c = false := by simpa using List.all_eq_true.1 whole c inside
  constructor
  · rintro rfl
    cases notEnd
  · rintro rfl
    cases notEnd

/-- A line is copied, and forgets a carriage return before it unless it is empty. -/
theorem foldl_unifyStep_line {line : List Char} (whole : isLine line = true) (written : List Char)
    (afterReturn : Bool) :
    line.foldl unifyStep (written, afterReturn) =
      (line.reverse ++ written, afterReturn && line.isEmpty) := by
  induction line generalizing written afterReturn with
  | nil => simp
  | cons c line ih =>
    have here := ne_break_of_isLine whole List.mem_cons_self
    have rest : isLine line = true := by
      rw [isLine, List.all_cons, Bool.and_eq_true] at whole
      exact whole.2
    have step : unifyStep (written, afterReturn) c = (c :: written, false) := by
      simp [unifyStep, here.1, here.2]
    rw [List.foldl_cons, step, ih rest]
    simp

/-- A terminator becomes one line feed. Only a lone carriage return leaves the reader waiting for a
line feed, and may itself stand where the reader does so. -/
theorem foldl_unifyStep_terminator (terminator : Terminator) (written : List Char)
    {afterReturn : Bool} (fits : afterReturn = true → terminator = .carriageReturn) :
    terminator.chars.foldl unifyStep (written, afterReturn) =
      ('\n' :: written, terminator == .carriageReturn) := by
  cases terminator with
  | lineFeed =>
    cases afterReturn with
    | true => cases fits rfl
    | false => rfl
  | carriageReturn => rfl
  | returnAndFeed => rfl

/-- Each carriage return with a line feed behind it, and each other one, as a line feed. -/
def lineFeeds : List Char → List Char
  | '\r' :: '\n' :: rest => '\n' :: lineFeeds rest
  | '\r' :: rest => '\n' :: lineFeeds rest
  | c :: rest => c :: lineFeeds rest
  | [] => []

/-- Only a line feed minds a carriage return before it. -/
theorem foldl_unifyStep_of_head {text : List Char} (other : ∀ c ∈ text.head?, c ≠ '\n')
    (written : List Char) (afterReturn : Bool) :
    (text.foldl unifyStep (written, afterReturn)).1 =
      (text.foldl unifyStep (written, false)).1 := by
  cases text with
  | nil => rfl
  | cons c rest =>
    have notFeed : c ≠ '\n' := other c rfl
    simp [unifyStep, notFeed]

/-- One pass from the left finds every terminator, those of two characters too. -/
theorem unifyBreaks_eq_lineFeeds (text : List Char) : unifyBreaks text = lineFeeds text := by
  have folded (written : List Char) :
      (text.foldl unifyStep (written, false)).1 = (lineFeeds text).reverse ++ written := by
    fun_induction lineFeeds text generalizing written with
    | case1 rest ih => simpa [unifyStep] using ih ('\n' :: written)
    | case2 rest notFeed ih =>
      have other : ∀ c ∈ rest.head?, c ≠ '\n' := by
        rintro c first rfl
        obtain ⟨behind, shape⟩ := List.head?_eq_some_iff.1 first
        exact notFeed behind shape
      rw [List.foldl_cons]
      simpa [unifyStep, foldl_unifyStep_of_head other] using ih ('\n' :: written)
    | case3 c rest _ notReturn ih =>
      have other : c ≠ '\r' := notReturn
      simpa [unifyStep, other] using ih (c :: written)
    | case4 => rfl
  rw [unifyBreaks, folded, List.append_nil, List.reverse_reverse]

/-- Lines with their terminators, and what follows the last of them. -/
def terminated (terminator : List Char) (lines : List (List Char)) (last : List Char) :
    List Char :=
  lines.flatMap (· ++ terminator) ++ last

/-- Lines with their terminators become lines with line feeds. -/
theorem foldl_unifyStep_terminated (terminator : Terminator) {lines : List (List Char)}
    {last : List Char} (whole : ∀ line ∈ lines, isLine line = true)
    (lastWhole : isLine last = true) (written : List Char) {afterReturn : Bool}
    (fits : afterReturn = true → terminator = .carriageReturn) :
    ((terminated terminator.chars lines last).foldl unifyStep (written, afterReturn)).1 =
      (terminated ['\n'] lines last).reverse ++ written := by
  induction lines generalizing written afterReturn with
  | nil => simp [terminated, foldl_unifyStep_line lastWhole]
  | cons line rest ih =>
    have here := whole line List.mem_cons_self
    have kept : (afterReturn && line.isEmpty) = true → terminator = .carriageReturn :=
      fun both => fits (Bool.and_eq_true_iff.1 both).1
    have waiting : (terminator == .carriageReturn) = true → terminator = .carriageReturn := by
      simp
    have later := ih (fun line listed => whole line (List.mem_cons_of_mem _ listed))
      ('\n' :: (line.reverse ++ written)) waiting
    simp only [terminated] at later ⊢
    rw [List.flatMap_cons, List.append_assoc, List.append_assoc, List.foldl_append,
      foldl_unifyStep_line here, List.foldl_append, foldl_unifyStep_terminator _ _ kept, later]
    simp

/-- Cutting gives back the lines and what follows the last terminator. -/
theorem splitOnP_terminated {lines : List (List Char)} {last : List Char}
    (whole : ∀ line ∈ lines, isLine line = true) (lastWhole : isLine last = true) :
    (terminated ['\n'] lines last).splitOnP isLineEnd = lines ++ [last] := by
  have noEnd : ∀ line, isLine line = true → ∀ c ∈ line, isLineEnd c = false := by
    intro line isWhole c inside
    simpa using List.all_eq_true.1 isWhole c inside
  induction lines with
  | nil => exact List.splitOnP_eq_singleton (noEnd last lastWhole)
  | cons line rest ih =>
    have later := ih fun line listed => whole line (List.mem_cons_of_mem _ listed)
    have first : terminated ['\n'] (line :: rest) last =
        line ++ '\n' :: terminated ['\n'] rest last := by simp [terminated]
    rw [first, List.splitOnP_append_cons_of_forall_mem
      (noEnd line (whole line List.mem_cons_self)) '\n' rfl, later, List.cons_append]

/-- The pieces of a text of terminated lines, whatever the terminator. -/
theorem splitOnP_unifyBreaks_terminated (terminator : Terminator) {lines : List (List Char)}
    {last : List Char} (whole : ∀ line ∈ lines, isLine line = true)
    (lastWhole : isLine last = true) :
    (unifyBreaks (terminated terminator.chars lines last)).splitOnP isLineEnd =
      lines ++ [last] := by
  rw [unifyBreaks, foldl_unifyStep_terminated terminator whole lastWhole [] (by simp),
    List.append_nil, List.reverse_reverse, splitOnP_terminated whole lastWhole]

theorem joinWith_concat (mark : List Char) (lines : List (List Char)) (last : List Char) :
    joinWith mark (lines ++ [last]) = terminated mark lines last := by
  cases lines with
  | nil => simp [joinWith, terminated]
  | cons line rest =>
    have shifted : (rest ++ [last]).flatMap (mark ++ ·) =
        mark ++ (rest.flatMap (· ++ mark) ++ last) := by
      induction rest with
      | nil => simp
      | cons next rest ih => simp [ih]
    simp [joinWith, terminated, shifted]

/-- The pieces of a text of lines: the lines, and an empty one if a terminator ends the text. -/
theorem pieces_ofLines (terminator : Terminator) (closed : Bool) {lines : List String}
    (nonempty : lines ≠ []) (whole : ∀ line ∈ lines, isLine line.toList = true) :
    ((unifyBreaks (ofLines terminator closed lines)).splitOnP isLineEnd).map String.ofList =
      lines ++ if closed then [""] else [] := by
  obtain ⟨before, last, rfl⟩ : ∃ before last, lines = before ++ [last] :=
    ⟨lines.dropLast, lines.getLast nonempty, (List.dropLast_concat_getLast nonempty).symm⟩
  have beforeWhole : ∀ line ∈ before.map String.toList, isLine line = true := by
    intro line listed
    obtain ⟨text, isBefore, rfl⟩ := List.mem_map.1 listed
    exact whole text (List.mem_append_left _ isBefore)
  have lastWhole : isLine last.toList = true := whole last (by simp)
  have texts (lines : List String) : (lines.map String.toList).map String.ofList = lines := by
    simp [Function.comp_def]
  rw [ofLines, List.map_append, List.map_singleton, joinWith_concat]
  cases closed with
  | false =>
    rw [if_neg (by decide), List.append_nil,
      splitOnP_unifyBreaks_terminated terminator beforeWhole lastWhole]
    simp [texts]
  | true =>
    have allWhole : ∀ line ∈ before.map String.toList ++ [last.toList], isLine line = true := by
      simpa [or_imp, forall_and] using And.intro beforeWhole lastWhole
    have ended : terminated terminator.chars (before.map String.toList) last.toList ++
        terminator.chars =
          terminated terminator.chars (before.map String.toList ++ [last.toList]) [] := by
      simp [terminated]
    rw [if_pos rfl, ended, splitOnP_unifyBreaks_terminated terminator allWhole rfl]
    simp [texts]

end EndpointDocs.Text
