import EndpointDocs.Proofs.Files.GlobSet
import EndpointDocs.Proofs.Text.Cut
import Mathlib.Data.List.TakeWhile

/-!
Which names a pattern matches. A star stands for any text, a question mark for any character,
closed brackets for one character that belongs to their inside, and everything else for itself, a
bracket that is never closed included. Answering all ends of a name at once finds exactly these
names.
-/
namespace EndpointDocs.Glob

/-- A bracket begins with an exclamation mark and a character, or with a character that is none. -/
def IsStart (mark : List CodePoint) (first : CodePoint) : Prop :=
  mark = [.char '!'] ∨ mark = [] ∧ first ≠ .char '!'

/-- A text is the inside of brackets: its first character, an exclamation mark before it apart, may
be anything, and what follows has no closing bracket. -/
def IsInside (inside : List CodePoint) : Prop :=
  ∃ mark first body, IsStart mark first ∧ CodePoint.char ']' ∉ body ∧ inside = mark ++ first :: body

/-- A pattern matches a name. -/
inductive Matches : List CodePoint → List CodePoint → Prop
  | nil : Matches [] []
  | star (skipped : List CodePoint) {pattern name : List CodePoint} (rest : Matches pattern name) :
      Matches (.char '*' :: pattern) (skipped ++ name)
  | question (c : CodePoint) {pattern name : List CodePoint} (rest : Matches pattern name) :
      Matches (.char '?' :: pattern) (c :: name)
  | set {inside : List CodePoint} {c : CodePoint} {pattern name : List CodePoint}
      (closed : IsInside inside) (member : belongs inside c = true) (rest : Matches pattern name) :
      Matches (.char '[' :: (inside ++ .char ']' :: pattern)) (c :: name)
  | unclosed {pattern name : List CodePoint}
      (never : ∀ inside after, IsInside inside → pattern ≠ inside ++ .char ']' :: after)
      (rest : Matches pattern name) : Matches (.char '[' :: pattern) (.char '[' :: name)
  | char {c : CodePoint} {pattern name : List CodePoint}
      (plain : c ≠ .char '*' ∧ c ≠ .char '?' ∧ c ≠ .char '[')
      (rest : Matches pattern name) : Matches (c :: pattern) (c :: name)

theorem matchesEnds_single {part : Part} (single : part ≠ .anything) (parts : List Part)
    (name : List CodePoint) :
    matchesEnds (part :: parts) name = holdsThen part name (matchesEnds parts name) := by
  cases part with
  | anything => exact absurd rfl single
  | anyChar => rfl
  | char c => rfl
  | set members => rfl

theorem exists_matchesEnds_nil (parts : List Part) : ∃ answer, matchesEnds parts [] = [answer] := by
  induction parts with
  | nil => exact ⟨true, rfl⟩
  | cons part parts ih =>
    obtain ⟨answer, ends⟩ := ih
    by_cases star : part = .anything
    · rw [star, matchesEnds, ends]
      exact ⟨_, rfl⟩
    · rw [matchesEnds_single star]
      exact ⟨false, rfl⟩

/-- The answers for a shorter name are the later answers for a longer one. -/
theorem exists_matchesEnds_cons (parts : List Part) (c : CodePoint) (name : List CodePoint) :
    ∃ answer, matchesEnds parts (c :: name) = answer :: matchesEnds parts name := by
  induction parts with
  | nil => exact ⟨false, rfl⟩
  | cons part parts ih =>
    obtain ⟨answer, ends⟩ := ih
    by_cases star : part = .anything
    · rw [star, matchesEnds, matchesEnds, ends]
      exact ⟨_, rfl⟩
    · rw [matchesEnds_single star, matchesEnds_single star, ends]
      exact ⟨_, rfl⟩

/-! What this means for the whole name, part by part. -/

theorem matchesParts_nil_iff (name : List CodePoint) : matchesParts [] name = true ↔ name = [] := by
  cases name with
  | nil => exact iff_of_true rfl rfl
  | cons c name => exact iff_of_false (by simp [matchesParts, matchesEnds]) (by simp)

theorem matchesParts_single_iff {part : Part} (single : part ≠ .anything) (parts : List Part)
    (name : List CodePoint) :
    matchesParts (part :: parts) name = true ↔
      ∃ c rest, name = c :: rest ∧ part.holds c = true ∧ matchesParts parts rest = true := by
  rw [matchesParts, matchesEnds_single single]
  cases name with
  | nil => simp [holdsThen]
  | cons c name =>
    obtain ⟨answer, ends⟩ := exists_matchesEnds_cons parts c name
    rw [ends]
    simp [holdsThen, matchesParts]

/-- A star passes over any beginning of the name. -/
theorem matchesParts_anything_iff (parts : List Part) (name : List CodePoint) :
    matchesParts (.anything :: parts) name = true ↔
      ∃ skipped rest, name = skipped ++ rest ∧ matchesParts parts rest = true := by
  induction name with
  | nil =>
    obtain ⟨answer, ends⟩ := exists_matchesEnds_nil parts
    simp [matchesParts, matchesEnds, ends, anyLater]
  | cons c name ih =>
    obtain ⟨answer, ends⟩ := exists_matchesEnds_cons parts c name
    have step : matchesParts (.anything :: parts) (c :: name) =
        (matchesParts parts (c :: name) || matchesParts (.anything :: parts) name) := by
      rw [matchesParts, matchesParts, matchesParts, matchesEnds, matchesEnds, ends]
      rfl
    rw [step, Bool.or_eq_true, ih]
    constructor
    · rintro (here | ⟨skipped, rest, rfl, later⟩)
      · exact ⟨[], c :: name, rfl, here⟩
      · exact ⟨c :: skipped, rest, rfl, later⟩
    · rintro ⟨skipped, rest, shape, matched⟩
      cases skipped with
      | nil =>
        cases shape
        exact .inl matched
      | cons d skipped =>
        cases shape
        exact .inr ⟨skipped, rest, rfl, matched⟩

/-- The character after the opening bracket, or after its exclamation mark, is passed over; then the
brackets end at the first closing one. -/
theorem bracket?_eq {mark : List CodePoint} {first : CodePoint} (start : IsStart mark first)
    (body : List CodePoint) :
    bracket? (mark ++ first :: body) =
      (body.dropWhile (· != .char ']')).tail?.map fun after =>
        (mark ++ first :: body.takeWhile (· != .char ']'), after) := by
  by_cases closing : first = .char ']'
  · rcases start with rfl | ⟨rfl, noMark⟩ <;>
      cases shape : body.dropWhile (· != .char ']') <;> simp [bracket?, closing, shape]
  · rcases start with rfl | ⟨rfl, noMark⟩ <;>
      cases shape : body.dropWhile (· != .char ']') <;> simp [bracket?, *]

theorem bracket?_of_isInside {inside : List CodePoint} (isInside : IsInside inside)
    (after : List CodePoint) : bracket? (inside ++ .char ']' :: after) = some (inside, after) := by
  obtain ⟨mark, first, body, start, within, rfl⟩ := isInside
  have skipped := Text.bne_of_not_mem within
  rw [List.append_assoc, List.cons_append, bracket?_eq start,
    List.dropWhile_append_of_pos skipped, List.takeWhile_append_of_pos skipped]
  simp

/-- Brackets without an inside are never closed. -/
theorem bracket?_of_never {pattern : List CodePoint}
    (never : ∀ inside after, IsInside inside → pattern ≠ inside ++ .char ']' :: after) :
    bracket? pattern = none := by
  have unclosed (mark : List CodePoint) (first : CodePoint) (body : List CodePoint)
      (start : IsStart mark first) (shape : pattern = mark ++ first :: body) :
      bracket? pattern = none := by
    have within : CodePoint.char ']' ∉ body := by
      intro closing
      obtain ⟨before, after, rfl, within⟩ := List.eq_append_cons_of_mem closing
      exact never (mark ++ first :: before) after ⟨mark, first, before, start, within, rfl⟩
        (by simpa using shape)
    have all : body.dropWhile (· != .char ']') = [] := by
      rw [List.dropWhile_eq_nil_iff]
      intro c listed
      exact bne_iff_ne.2 fun closing => within (closing ▸ listed)
    rw [shape, bracket?_eq start, all]
    rfl
  cases pattern with
  | nil => rfl
  | cons first body =>
    by_cases mark : first = .char '!'
    · subst mark
      cases body with
      | nil => rfl
      | cons first body => exact unclosed [.char '!'] first body (.inl rfl) rfl
    · exact unclosed [] first body (.inr ⟨rfl, mark⟩) rfl

/-! The parts of a pattern, without fuel. -/

theorem length_lt_of_bracket? {pattern inside after : List CodePoint}
    (found : bracket? pattern = some (inside, after)) : after.length < pattern.length := by
  by_cases closed : ∃ inside after, IsInside inside ∧ pattern = inside ++ .char ']' :: after
  · obtain ⟨inside, after, isInside, rfl⟩ := closed
    rw [bracket?_of_isInside isInside] at found
    cases found
    simp
    omega
  · have none : bracket? pattern = none := bracket?_of_never fun inside after isInside shape =>
      closed ⟨inside, after, isInside, shape⟩
    rw [none] at found
    cases found

/-- More steps than characters change nothing. -/
theorem partsFrom_eq {fuel more : Nat} {pattern : List CodePoint} (enough : pattern.length ≤ fuel)
    (enoughToo : pattern.length ≤ more) : partsFrom fuel pattern = partsFrom more pattern := by
  induction fuel generalizing more pattern with
  | zero =>
    have empty : pattern = [] := by simpa using enough
    subst empty
    cases more <;> rfl
  | succ fuel ih =>
    cases pattern with
    | nil => cases more <;> rfl
    | cons c pattern =>
      cases more with
      | zero => simp at enoughToo
      | succ more =>
        rw [List.length_cons, Nat.add_le_add_iff_right] at enough enoughToo
        rw [partsFrom, partsFrom, ih enough enoughToo]
        cases found : bracket? pattern with
        | none => rfl
        | some closed =>
          obtain ⟨inside, after⟩ := closed
          have shorter := length_lt_of_bracket? found
          have same : partsFrom fuel after = partsFrom more after := ih (by omega) (by omega)
          simp only [same]

theorem parts_set {inside : List CodePoint} (isInside : IsInside inside)
    (pattern : List CodePoint) :
    parts (.char '[' :: (inside ++ .char ']' :: pattern)) =
      .set (.ofInside inside) :: parts pattern := by
  have same : partsFrom (inside ++ .char ']' :: pattern).length pattern = parts pattern :=
    partsFrom_eq (by simp only [List.length_append, List.length_cons]; omega) (Nat.le_refl _)
  rw [parts, List.length_cons, partsFrom, bracket?_of_isInside isInside]
  simp only [same]
  rfl

theorem parts_unclosed {pattern : List CodePoint}
    (never : ∀ inside after, IsInside inside → pattern ≠ inside ++ .char ']' :: after) :
    parts (.char '[' :: pattern) = .char '[' :: parts pattern := by
  simp [parts, partsFrom, bracket?_of_never never]

theorem parts_char {c : CodePoint} (plain : c ≠ .char '*' ∧ c ≠ .char '?' ∧ c ≠ .char '[')
    (pattern : List CodePoint) :
    parts (c :: pattern) = .char c :: parts pattern := by
  simp [parts, partsFrom, plain]

/-- A name that the parts of a pattern match is matched by the pattern. The induction is on the
length of the pattern, since brackets take several characters. -/
theorem matches_of_matchesParts {pattern name : List CodePoint}
    (matched : matchesParts (parts pattern) name = true) : Matches pattern name := by
  -- By length, since a set between brackets takes up several characters of the pattern.
  induction size : pattern.length using Nat.strong_induction_on generalizing pattern name with
  | _ bound ih =>
    cases pattern with
    | nil =>
      obtain rfl := (matchesParts_nil_iff name).1 matched
      exact .nil
    | cons c pattern =>
      have shorter : pattern.length < bound := by
        rw [← size, List.length_cons]
        exact Nat.lt_succ_self _
      by_cases star : c = .char '*'
      · subst star
        obtain ⟨skipped, rest, rfl, later⟩ := (matchesParts_anything_iff _ name).1 matched
        exact .star skipped (ih _ shorter later rfl)
      by_cases question : c = .char '?'
      · subst question
        obtain ⟨c, rest, rfl, -, later⟩ := (matchesParts_single_iff (by simp) _ name).1 matched
        exact .question c (ih _ shorter later rfl)
      by_cases bracket : c = .char '['
      · subst bracket
        by_cases closed : ∃ inside after, IsInside inside ∧ pattern = inside ++ .char ']' :: after
        · obtain ⟨inside, after, isInside, rfl⟩ := closed
          rw [parts_set isInside] at matched
          obtain ⟨c, rest, rfl, member, later⟩ :=
            (matchesParts_single_iff (by simp) _ name).1 matched
          have shorter : after.length < bound := by
            simp only [List.length_append, List.length_cons] at shorter
            omega
          have member : belongs inside c = true := (holds_ofInside inside c).symm.trans member
          exact .set isInside member (ih _ shorter later rfl)
        · have never : ∀ inside after, IsInside inside → pattern ≠ inside ++ .char ']' :: after :=
            fun inside after isInside shape => closed ⟨inside, after, isInside, shape⟩
          rw [parts_unclosed never] at matched
          obtain ⟨c, rest, rfl, same, later⟩ :=
            (matchesParts_single_iff (by simp) _ name).1 matched
          obtain rfl : .char '[' = c := eq_of_beq same
          exact .unclosed never (ih _ shorter later rfl)
      · rw [parts_char ⟨star, question, bracket⟩] at matched
        obtain ⟨d, rest, rfl, same, later⟩ :=
          (matchesParts_single_iff (by simp) _ name).1 matched
        obtain rfl : c = d := eq_of_beq same
        exact .char ⟨star, question, bracket⟩ (ih _ shorter later rfl)

/-- Every way in which a pattern matches is found by the search through the name. -/
theorem matchesParts_of_matches {pattern name : List CodePoint} (matched : Matches pattern name) :
    matchesParts (parts pattern) name = true := by
  induction matched with
  | nil => rfl
  | star skipped rest ih => exact (matchesParts_anything_iff _ _).2 ⟨skipped, _, rfl, ih⟩
  | question c rest ih => exact (matchesParts_single_iff (by simp) _ _).2 ⟨c, _, rfl, rfl, ih⟩
  | @set inside c pattern name closed member rest ih =>
    rw [parts_set closed]
    exact (matchesParts_single_iff (by simp) _ _).2
      ⟨c, name, rfl, (holds_ofInside inside c).trans member, ih⟩
  | unclosed never rest ih =>
    rw [parts_unclosed never]
    exact (matchesParts_single_iff (by simp) _ _).2 ⟨.char '[', _, rfl, rfl, ih⟩
  | @char c pattern name plain rest ih =>
    rw [parts_char plain]
    exact (matchesParts_single_iff (by simp) _ _).2 ⟨c, name, rfl, beq_self_eq_true c, ih⟩

/-- Matching a pattern against a name answers whether the pattern matches it. -/
theorem matchesName_iff (pattern name : Wide) :
    matchesName pattern name = true ↔ Matches pattern name :=
  ⟨matches_of_matchesParts, matchesParts_of_matches⟩

end EndpointDocs.Glob
