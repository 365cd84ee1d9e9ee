import EndpointDocs.Files.Glob
import EndpointDocs.Proofs.Text.CodePoint
import Mathlib.Data.List.Basic

/-!
What stands between the brackets of a file name pattern, item by item. Read from the left, two
characters with a hyphen between them are a range, and every other character stands for itself. The
set that is found by cutting at hyphens has the members that the items say, without the ranges that
run backwards.
-/
namespace EndpointDocs.Glob

inductive Item where
  | single (c : CodePoint)
  | range (low high : CodePoint)
  deriving DecidableEq, Repr

namespace Item

def holds : Item → CodePoint → Bool
  | .single c, d => d == c
  | .range low high, d => decide (low ≤ d) && decide (d ≤ high)

/-- Whether an item is no range that runs backwards. -/
def isForward : Item → Bool
  | .single _ => true
  | .range low high => decide (low ≤ high)

end Item

def items : List CodePoint → List Item
  | low :: .char '-' :: high :: rest => .range low high :: items rest
  | c :: rest => .single c :: items rest
  | [] => []

/-- The items between brackets: an exclamation mark at the start begins no range. -/
def itemsInside : List CodePoint → List Item
  | .char '!' :: rest => .single (.char '!') :: items rest
  | inside => items inside

/-- The items that an exclamation mark in front of them negates. Where it is the low end of a range,
the hyphen and the high end are items of their own. -/
def negated? : List Item → Option (List Item)
  | .single c :: rest => if c = .char '!' then some rest else none
  | .range low high :: rest =>
    if low = .char '!' then some (.single (.char '-') :: .single high :: rest) else none
  | [] => none

/-- Whether items without backward ranges stand for a character. -/
def includes (kept : List Item) (c : CodePoint) : Bool :=
  match negated? kept with
  | some members => !members.any (·.holds c)
  | none => kept.any (·.holds c)

/-- Whether the inside of brackets stands for a character. Ranges that run backwards are gone before
the exclamation mark is looked for. -/
def belongs (inside : List CodePoint) (c : CodePoint) : Bool :=
  includes ((itemsInside inside).filter Item.isForward) c

/-- Pieces between hyphens, the first of them apart, and the items that they are. -/
inductive Reads : List CodePoint → List (List CodePoint) → List Item → Prop
  | last (piece : List CodePoint) : Reads piece [] (piece.map .single)
  | range (before : List CodePoint) (low high : CodePoint) {later : List CodePoint}
      {rest : List (List CodePoint)} {found : List Item} (next : Reads later rest found) :
      Reads (before ++ [low]) ((high :: later) :: rest)
        (before.map .single ++ .range low high :: found)

namespace Reads

variable {first : List CodePoint} {rest : List (List CodePoint)} {found : List Item}

/-- Characters in front of the first piece are items of their own. -/
theorem append (before : List CodePoint) (reads : Reads first rest found) :
    Reads (before ++ first) rest (before.map .single ++ found) := by
  cases reads with
  | last =>
    rw [← List.map_append]
    exact .last _
  | range more low high next =>
    rw [← List.append_assoc, ← List.append_assoc, ← List.map_append]
    exact .range _ low high next

theorem cons (c : CodePoint) (reads : Reads first rest found) :
    Reads (c :: first) rest (.single c :: found) :=
  reads.append [c]

end Reads

/-- A character before the piece counts as one more before the next hyphen. -/
theorem rangePieces_concat (least : Nat) (piece : List CodePoint) (c : CodePoint)
    (text : List CodePoint) :
    rangePieces (least + 1) (piece ++ [c]) text =
      (rangePieces least piece text).modifyHead (c :: ·) := by
  induction text generalizing piece with
  | nil => simp [rangePieces]
  | cons d text ih =>
    have sameTest : (d == .char '-' && decide (least + 1 ≤ (piece ++ [c]).length)) =
        (d == .char '-' && decide (least ≤ piece.length)) := by simp
    by_cases cut : (d == .char '-' && decide (least ≤ piece.length)) = true
    · simp only [rangePieces, sameTest, if_pos cut]
      simp
    · simp only [rangePieces, sameTest, if_neg cut]
      exact ih (d :: piece)

theorem joinTrailing_modifyHead (c : CodePoint) (pieces : List (List CodePoint)) :
    joinTrailing (pieces.modifyHead (c :: ·)) = (joinTrailing pieces).modifyHead (c :: ·) := by
  fun_cases joinTrailing pieces with
  | case1 piece => rfl
  | case2 piece rest notTrailing =>
    rw [List.modifyHead_cons, joinTrailing, List.modifyHead_cons]
    exact notTrailing
  | case3 => rfl

/-- A point right after a hyphen begins the next piece; what follows it is cut as from the start. -/
theorem joinTrailing_rangePieces_two (high : CodePoint) (text : List CodePoint) :
    joinTrailing (rangePieces 2 [] (high :: text)) =
      (joinTrailing (rangePieces 1 [] text)).modifyHead (high :: ·) := by
  have begun : rangePieces 2 [] (high :: text) = rangePieces 2 [high] text := by simp [rangePieces]
  have shifted := rangePieces_concat 1 [] high text
  rw [List.nil_append] at shifted
  rw [begun, shifted, joinTrailing_modifyHead]

/-- Cutting at hyphens gives the items from the left. The first character `c` of what is to be read
is held back in the piece, since it may be the low end of a range; what is before it there stands
for itself. -/
theorem reads_rangePieces_cons {inside : List CodePoint} (c : CodePoint)
    (before text : List CodePoint) (shape : inside = c :: text) :
    ∃ first rest, joinTrailing (rangePieces 1 (c :: before) text) = first :: rest ∧
      Reads first rest (before.reverse.map .single ++ items inside) := by
  fun_induction items inside generalizing c before text with
  | case1 low high later ih =>
    cases shape
    have next : ∃ first rest, joinTrailing (rangePieces 1 [] later) = first :: rest ∧
        Reads first rest (items later) := by
      cases later with
      | nil => exact ⟨[], [], rfl, .last []⟩
      | cons d later => simpa [rangePieces] using ih d [] later rfl
    obtain ⟨first, rest, cut, reads⟩ := next
    refine ⟨(low :: before).reverse, (high :: first) :: rest, ?_, ?_⟩
    · have joined := joinTrailing_rangePieces_two high later
      rw [cut, List.modifyHead_cons] at joined
      have cutHere : rangePieces 1 (low :: before) (.char '-' :: high :: later) =
          (low :: before).reverse :: rangePieces 2 [] (high :: later) := by simp [rangePieces]
      rw [cutHere, joinTrailing, joined]
      intro trailing
      rw [trailing] at joined
      simp [joinTrailing] at joined
    · simpa using Reads.range before.reverse low high reads
  | case2 first later noRange ih =>
    cases shape
    cases later with
    | nil =>
      refine ⟨(first :: before).reverse, [], rfl, ?_⟩
      simpa [items] using Reads.last (before.reverse ++ [first])
    | cons d later =>
      by_cases hyphen : d = .char '-'
      · -- A hyphen that is no part of a range is the last character.
        have last : later = [] := by
          cases later with
          | nil => rfl
          | cons high later => exact (noRange high later (by rw [hyphen])).elim
        subst hyphen last
        refine ⟨(first :: before).reverse ++ [.char '-'], [],
          by simp [rangePieces, joinTrailing], ?_⟩
        simpa [items] using Reads.last (before.reverse ++ [first, .char '-'])
      · simpa [rangePieces, hyphen] using ih d (first :: before) later rfl
  | case3 => cases shape

theorem reads_rangePieces (text : List CodePoint) :
    ∃ first rest, joinTrailing (rangePieces 1 [] text) = first :: rest ∧
      Reads first rest (items text) := by
  cases text with
  | nil => exact ⟨[], [], rfl, .last []⟩
  | cons c text => simpa [rangePieces] using reads_rangePieces_cons c [] text rfl

/-- Without a hyphen there is one piece. -/
theorem joinTrailing_rangePieces_of_not_mem (least : Nat) (piece : List CodePoint)
    {text : List CodePoint} (none : CodePoint.char '-' ∉ text) :
    joinTrailing (rangePieces least piece text) = [piece.reverse ++ text] := by
  induction text generalizing piece with
  | nil => simp [rangePieces, joinTrailing]
  | cons c text ih =>
    rw [List.mem_cons, not_or] at none
    simpa [rangePieces, Ne.symm none.1] using ih (c :: piece) none.2

theorem dropBackward_concat (before : List CodePoint) (low : CodePoint) {high : CodePoint}
    {next : List CodePoint} {pieces others : List (List CodePoint)}
    (dropped : dropBackward pieces = (high :: next) :: others) :
    dropBackward ((before ++ [low]) :: pieces) =
      if high < low then (before ++ next) :: others
      else (before ++ [low]) :: (high :: next) :: others := by
  simp [dropBackward, dropped]

theorem rangesOf_concat (before : List CodePoint) (low high : CodePoint) (later : List CodePoint)
    (rest : List (List CodePoint)) :
    rangesOf ((before ++ [low]) :: (high :: later) :: rest) =
      (low, high) :: rangesOf ((high :: later) :: rest) := by
  simp [rangesOf]

theorem CharSet.holds_listed (singles : List CodePoint) (ranges : List (CodePoint × CodePoint))
    (c : CodePoint) :
    (⟨false, singles, ranges⟩ : CharSet).holds c = true ↔
      c ∈ singles ∨ ∃ range ∈ ranges, range.1 ≤ c ∧ c ≤ range.2 := by
  simp [CharSet.holds]

namespace Reads

variable {first : List CodePoint} {rest : List (List CodePoint)} {found : List Item}

/-- Dropping the ranges that run backwards leaves the pieces of the other items, whatever stands
before the first piece. -/
theorem dropBackward (reads : Reads first rest found) :
    ∃ kept others, Reads kept others (found.filter Item.isForward) ∧
      ∀ before, Glob.dropBackward ((before ++ first) :: rest) = (before ++ kept) :: others := by
  induction reads with
  | last piece =>
    refine ⟨piece, [], ?_, fun _ => rfl⟩
    rw [List.filter_eq_self.2 (by simp [Item.isForward])]
    exact .last piece
  | @range here low high later rest found next ih =>
    obtain ⟨kept, others, reads, dropped⟩ := ih
    have after : Glob.dropBackward ((high :: later) :: rest) = (high :: kept) :: others :=
      dropped [high]
    have singles : (here.map Item.single).filter Item.isForward = here.map .single :=
      List.filter_eq_self.2 (by simp [Item.isForward])
    have step (before : List CodePoint) := dropBackward_concat (before ++ here) low after
    simp only [List.append_assoc] at step
    by_cases backward : high < low
    · refine ⟨here ++ kept, others, ?_, fun before => by rw [step, if_pos backward]⟩
      have gone : Item.isForward (.range low high) = false :=
        decide_eq_false (CodePoint.not_le.2 backward)
      rw [List.filter_append, singles, List.filter_cons_of_neg (by simp [gone])]
      exact reads.append here
    · refine ⟨here ++ [low], (high :: kept) :: others, ?_,
        fun before => by rw [step, if_neg backward]⟩
      have stays : Item.isForward (.range low high) = true :=
        decide_eq_true (CodePoint.not_lt.1 backward)
      rw [List.filter_append, singles, List.filter_cons_of_pos stays]
      exact .range here low high reads

theorem rangesOf_cons (c : CodePoint) (reads : Reads first rest found) :
    rangesOf ((c :: first) :: rest) = rangesOf (first :: rest) := by
  cases reads with
  | last => rfl
  | range before low high next =>
    rw [rangesOf_concat, ← List.cons_append, rangesOf_concat]

/-- The characters of the pieces and the ranges between them are what the items hold, if no range
runs backwards: the ends of a range then belong to it. -/
theorem holds_iff (reads : Reads first rest found) (forward : ∀ item ∈ found, item.isForward = true)
    (c : CodePoint) :
    (⟨false, (first :: rest).flatten, rangesOf (first :: rest)⟩ : CharSet).holds c = true ↔
      ∃ item ∈ found, item.holds c = true := by
  induction reads with
  | last piece => simp [CharSet.holds, rangesOf, Item.holds]
  | @range before low high later rest found next ih =>
    obtain ⟨ordered, laterForward⟩ := List.forall_mem_cons.1 (List.forall_mem_append.1 forward).2
    have ordered : low ≤ high := of_decide_eq_true ordered
    have atEnds : c = low ∨ c = high → low ≤ c ∧ c ≤ high := by
      rintro (rfl | rfl)
      · exact ⟨CodePoint.le_refl c, ordered⟩
      · exact ⟨ordered, CodePoint.le_refl c⟩
    have later := ih laterForward
    rw [CharSet.holds_listed] at later ⊢
    rw [rangesOf_concat, next.rangesOf_cons]
    have here : (∃ item ∈ before.map Item.single, item.holds c = true) ↔ c ∈ before := by
      simp [Item.holds]
    have range : Item.holds (.range low high) c = true ↔ low ≤ c ∧ c ≤ high := by
      simp [Item.holds]
    simp only [List.flatten_cons, List.mem_append, List.mem_cons, List.not_mem_nil, or_false,
      or_and_right, exists_or, exists_eq_left, range, ← later] at here ⊢
    rw [here]
    grind

theorem holds_eq_any (reads : Reads first rest found)
    (forward : ∀ item ∈ found, item.isForward = true) (c : CodePoint) :
    (⟨false, (first :: rest).flatten, rangesOf (first :: rest)⟩ : CharSet).holds c =
      found.any (·.holds c) :=
  Bool.eq_iff_iff.2 ((reads.holds_iff forward c).trans List.any_eq_true.symm)

theorem nil_cases (reads : Reads [] rest found) : rest = [] ∧ found = [] := by
  generalize shape : [] = piece at reads
  cases reads with
  | last =>
    subst shape
    exact ⟨rfl, rfl⟩
  | range before low high next => simp at shape

/-- A piece that is not empty begins with an item of its own, or it is the low end of a range. -/
theorem cons_cases {c : CodePoint} (reads : Reads (c :: first) rest found) :
    (∃ others, found = .single c :: others ∧ Reads first rest others) ∨
      ∃ high later pieces others, first = [] ∧ rest = (high :: later) :: pieces ∧
        found = .range c high :: others ∧ Reads later pieces others := by
  generalize shape : c :: first = piece at reads
  cases reads with
  | last =>
    subst shape
    exact .inl ⟨first.map .single, rfl, .last first⟩
  | range before low high next =>
    cases before with
    | nil =>
      cases shape
      exact .inr ⟨high, _, _, _, rfl, rfl, rfl, next⟩
    | cons d before =>
      cases shape
      exact .inl ⟨_, rfl, .range before low high next⟩

theorem ofPieces_eq (reads : Reads first rest found) (negated : Bool) :
    CharSet.ofPieces negated (first :: rest) =
      ⟨negated, (first :: rest).flatten, rangesOf (first :: rest)⟩ := by
  cases reads with
  | last => cases first <;> rfl
  | range before low high next => cases before <;> rfl

end Reads

theorem CharSet.holds_negated (singles : List CodePoint) (ranges : List (CodePoint × CodePoint))
    (c : CodePoint) :
    (⟨true, singles, ranges⟩ : CharSet).holds c = !(⟨false, singles, ranges⟩ : CharSet).holds c :=
  rfl

theorem CharSet.holds_cons (d : CodePoint) (singles : List CodePoint)
    (ranges : List (CodePoint × CodePoint)) (c : CodePoint) :
    (⟨false, d :: singles, ranges⟩ : CharSet).holds c =
      (c == d || (⟨false, singles, ranges⟩ : CharSet).holds c) := by
  simp only [CharSet.holds, List.contains_cons, Bool.or_assoc, Bool.false_eq_true, if_false]

/-- The pieces between brackets are those of the items. -/
theorem reads_itemsInside (inside : List CodePoint) :
    ∃ first rest,
      joinTrailing (rangePieces (if inside.head? = some (.char '!') then 2 else 1) [] inside) =
        first :: rest ∧ Reads first rest (itemsInside inside) := by
  fun_cases itemsInside inside with
  | case1 text =>
    obtain ⟨first, rest, cut, reads⟩ := reads_rangePieces text
    refine ⟨.char '!' :: first, rest, ?_, reads.cons (.char '!')⟩
    rw [if_pos List.head?_cons, joinTrailing_rangePieces_two, cut, List.modifyHead_cons]
  | case2 _ other =>
    have noMark : inside.head? ≠ some (.char '!') := by
      intro mark
      obtain ⟨text, shape⟩ := List.head?_eq_some_iff.1 mark
      exact other text shape
    rw [if_neg noMark]
    exact reads_rangePieces inside

/-- A set is made of the pieces of the items that do not run backwards. -/
theorem exists_ofInside_eq (inside : List CodePoint) :
    ∃ kept others, Reads kept others ((itemsInside inside).filter Item.isForward) ∧
      (∀ tail, kept = .char '!' :: tail →
        CharSet.ofInside inside = .ofPieces true (tail :: others)) ∧
      (kept.head? ≠ some (.char '!') →
        CharSet.ofInside inside = .ofPieces false (kept :: others)) := by
  obtain ⟨first, rest, cut, reads⟩ := reads_itemsInside inside
  obtain ⟨kept, others, keptReads, dropped⟩ := reads.dropBackward
  have pieces : (if inside.contains (.char '-') then
      dropBackward (joinTrailing
        (rangePieces (if inside.head? = some (.char '!') then 2 else 1) [] inside))
      else [inside]) = kept :: others := by
    have whole : dropBackward (first :: rest) = kept :: others := dropped []
    by_cases hyphen : CodePoint.char '-' ∈ inside
    · rw [if_pos (by simpa using hyphen), cut, whole]
    · rw [if_neg (by simpa using hyphen), ← whole, ← cut,
        joinTrailing_rangePieces_of_not_mem _ _ hyphen]
      rfl
  refine ⟨kept, others, keptReads, ?_, ?_⟩
  · rintro tail rfl
    simp only [CharSet.ofInside, pieces]
  · intro noMark
    simp only [CharSet.ofInside, pieces]
    split
    · rename_i shape
      cases shape
      exact absurd List.head?_cons noMark
    · rfl

/-- The set between brackets has the members that its items say. -/
theorem holds_ofInside (inside : List CodePoint) (c : CodePoint) :
    (CharSet.ofInside inside).holds c = belongs inside c := by
  obtain ⟨kept, others, reads, marked, plain⟩ := exists_ofInside_eq inside
  have forward : ∀ item ∈ (itemsInside inside).filter Item.isForward, item.isForward = true :=
    fun item listed => (List.mem_filter.1 listed).2
  unfold belongs
  generalize (itemsInside inside).filter Item.isForward = found at reads forward
  by_cases mark : kept.head? = some (.char '!')
  · obtain ⟨tail, rfl⟩ := List.head?_eq_some_iff.1 mark
    rw [marked tail rfl]
    obtain ⟨members, rfl, tailReads⟩ | ⟨high, later, pieces, members, rfl, rfl, rfl, laterReads⟩ :=
      reads.cons_cases
    · have members := tailReads.holds_eq_any (List.forall_mem_cons.1 forward).2 c
      rw [tailReads.ofPieces_eq, CharSet.holds_negated, members]
      rfl
    · have members := (laterReads.cons high).holds_eq_any
        (List.forall_mem_cons.2 ⟨rfl, (List.forall_mem_cons.1 forward).2⟩) c
      rw [CharSet.ofPieces, CharSet.holds_negated, CharSet.holds_cons, members]
      rfl
  · have noMark : negated? found = none := by
      cases kept with
      | nil =>
        obtain ⟨rfl, rfl⟩ := reads.nil_cases
        rfl
      | cons d tail =>
        rw [List.head?_cons, Option.some.injEq] at mark
        obtain ⟨members, rfl, -⟩ | ⟨high, later, pieces, members, rfl, rfl, rfl, -⟩ :=
          reads.cons_cases
        · simp [negated?, mark]
        · simp [negated?, mark]
    rw [plain mark, reads.ofPieces_eq, reads.holds_eq_any forward, includes, noMark]

/-- Backward ranges are dropped before the mark is looked for: this is everything but `b`. -/
example : belongs "z-a!b" (.char 'b') = false ∧ belongs "z-a!b" (.char 'c') = true := by decide

end EndpointDocs.Glob
