import EndpointDocs.Proofs.Source.Framed
import Mathlib.Logic.ExistsUnique

/-!
How lines divide into blocks. Every list of lines is, in exactly one way, a gap, then blocks between
the comments that open and close them, each with a gap behind it, and at the end at most one block
that stays open. Scanning gives the blocks of this division.
-/
namespace EndpointDocs

/-- Whether a line is a comment that opens a block. -/
def Sentinels.opens (sentinels : Sentinels) (line : String) : Bool :=
  Block.isComment sentinels.marker sentinels.opening line

def Sentinels.closes (sentinels : Sentinels) (line : String) : Bool :=
  Block.isComment sentinels.marker sentinels.closing line

namespace Block

variable {sentinels : Sentinels}

/-- A block with the lines around it: the one that opens it, the one that closes it, and the gap
behind it. A line of the block may open another one. -/
@[ext]
structure Enclosed (sentinels : Sentinels) where
  first : String
  block : List String
  last : String
  gap : List String
  opens : sentinels.opens first = true
  staysOpen : ∀ line ∈ block, sentinels.closes line = false
  closes : sentinels.closes last = true
  gapOpensNone : ∀ line ∈ gap, sentinels.opens line = false

/-- A block that is opened and not closed, or nothing. -/
def IsUnclosed (sentinels : Sentinels) (tail : List String) : Prop :=
  tail = [] ∨ ∃ first held, tail = first :: held ∧ sentinels.opens first = true ∧
    ∀ line ∈ held, sentinels.closes line = false

/-- Lines divided into a gap, blocks with the lines around them, and what is not closed. -/
@[ext]
structure Division (sentinels : Sentinels) where
  gap : List String
  parts : List (Enclosed sentinels)
  tail : List String
  gapOpensNone : ∀ line ∈ gap, sentinels.opens line = false
  unclosed : IsUnclosed sentinels tail

def Enclosed.lines (part : Enclosed sentinels) : List String :=
  part.first :: (part.block ++ part.last :: part.gap)

namespace Division

/-- The lines behind the first gap. -/
def body (division : Division sentinels) : List String :=
  division.parts.flatMap Enclosed.lines ++ division.tail

def lines (division : Division sentinels) : List String :=
  division.gap ++ division.body

def blocks (division : Division sentinels) : List (List String) :=
  division.parts.map Enclosed.block

/-- The division with one more line in front that opens no block. -/
def skip (division : Division sentinels) (line : String)
    (opensNone : sentinels.opens line = false) : Division sentinels :=
  { division with
    gap := line :: division.gap
    gapOpensNone := List.forall_mem_cons.2 ⟨opensNone, division.gapOpensNone⟩ }

/-- The division with a block in front of it, whose gap is the one with which it began. -/
def enclose (division : Division sentinels) (first : String) (block : List String) (last : String)
    (opens : sentinels.opens first = true)
    (staysOpen : ∀ line ∈ block, sentinels.closes line = false)
    (closes : sentinels.closes last = true) : Division sentinels where
  gap := []
  parts := ⟨first, block, last, division.gap, opens, staysOpen, closes, division.gapOpensNone⟩ ::
    division.parts
  tail := division.tail
  gapOpensNone := by simp
  unclosed := division.unclosed

def ofUnclosed {tail : List String} (unclosed : IsUnclosed sentinels tail) : Division sentinels :=
  ⟨[], [], tail, by simp, unclosed⟩

end Division

/-- What lines are when a block is open before them: all of them stay in the block, or some do and
the next one closes it. -/
def IsContinuation (sentinels : Sentinels) (lines : List String) : Prop :=
  (∀ line ∈ lines, sentinels.closes line = false) ∨
    ∃ (block : List String) (last : String) (division : Division sentinels),
      (∀ line ∈ block, sentinels.closes line = false) ∧ sentinels.closes last = true ∧
        lines = block ++ last :: division.lines

theorem IsContinuation.cons {line : String} {rest : List String}
    (division : Division sentinels) (divided : division.lines = rest)
    (continued : IsContinuation sentinels rest) : IsContinuation sentinels (line :: rest) := by
  cases closed : sentinels.closes line with
  | true => exact .inr ⟨[], line, division, by simp, closed, by simp [divided]⟩
  | false =>
    rcases continued with allHeld | ⟨block, last, behind, staysOpen, closes, split⟩
    · exact .inl (List.forall_mem_cons.2 ⟨closed, allHeld⟩)
    · refine .inr ⟨line :: block, last, behind, ?_, closes, by simp [split]⟩
      exact List.forall_mem_cons.2 ⟨closed, staysOpen⟩

/-- The induction carries along what the lines are if a block is open before them, since the next
line may open one. -/
theorem exists_division (sentinels : Sentinels) (lines : List String) :
    (∃ division : Division sentinels, division.lines = lines) ∧
      IsContinuation sentinels lines := by
  induction lines with
  | nil => exact ⟨⟨Division.ofUnclosed (.inl rfl), rfl⟩, .inl (by simp)⟩
  | cons line rest ih =>
    obtain ⟨⟨division, divided⟩, continued⟩ := ih
    refine ⟨?_, continued.cons division divided⟩
    cases opened : sentinels.opens line with
    | false => exact ⟨division.skip line opened, congrArg (line :: ·) divided⟩
    | true =>
      rcases continued with allHeld | ⟨block, last, behind, staysOpen, closes, split⟩
      · exact ⟨Division.ofUnclosed (.inr ⟨line, rest, rfl, opened, allHeld⟩), rfl⟩
      · refine ⟨behind.enclose line block last opened staysOpen closes, ?_⟩
        simp [Division.lines, Division.body, Division.enclose, Enclosed.lines, split]

/-- What precedes the first line with a property, and what begins with it, are determined. -/
theorem split_unique {p : String → Bool} {before before' behind behind' : List String}
    (without : ∀ line ∈ before, p line = false) (without' : ∀ line ∈ before', p line = false)
    (starts : ∀ line ∈ behind.head?, p line = true)
    (starts' : ∀ line ∈ behind'.head?, p line = true)
    (same : before ++ behind = before' ++ behind') : before = before' ∧ behind = behind' := by
  induction before generalizing before' with
  | nil =>
    cases before' with
    | nil => exact ⟨rfl, same⟩
    | cons line before' =>
      have here := starts line (by simp [show behind = _ from same])
      rw [without' line List.mem_cons_self] at here
      cases here
  | cons line before ih =>
    cases before' with
    | nil =>
      have here := starts' line (by simp [← show _ = behind' from same])
      rw [without line List.mem_cons_self] at here
      cases here
    | cons line' before' =>
      obtain ⟨rfl, rest⟩ := List.cons.inj same
      have later := ih (fun line listed => without line (List.mem_cons_of_mem _ listed))
        (fun line listed => without' line (List.mem_cons_of_mem _ listed)) rest
      exact ⟨by rw [later.1], later.2⟩

namespace Division

/-- Behind the first gap a block is opened, unless the lines end. -/
theorem opens_head_body (division : Division sentinels) :
    ∀ line ∈ division.body.head?, sentinels.opens line = true := by
  intro line first
  cases shape : division.parts with
  | cons part parts =>
    simp only [body, shape, List.flatMap_cons, Enclosed.lines, List.cons_append, List.head?_cons,
      Option.mem_some_iff] at first
    exact first ▸ part.opens
  | nil =>
    simp only [body, shape, List.flatMap_nil, List.nil_append] at first
    rcases division.unclosed with nothing | ⟨opening, held, tail, opens, _⟩
    · simp [nothing] at first
    · simp only [tail, List.head?_cons, Option.mem_some_iff] at first
      exact first ▸ opens

/-- A block that stays open is not one that is closed. -/
theorem unclosed_ne_enclosed {tail : List String} (unclosed : IsUnclosed sentinels tail)
    (part : Enclosed sentinels) (rest : List String) : tail ≠ part.lines ++ rest := by
  rintro rfl
  rcases unclosed with nothing | ⟨first, held, shape, _, staysOpen⟩
  · simp [Enclosed.lines] at nothing
  · rw [Enclosed.lines, List.cons_append] at shape
    have closes := staysOpen part.last (by rw [← (List.cons.inj shape).2]; simp)
    rw [part.closes] at closes
    cases closes

/-- The lines behind the first gap of two divisions tell their parts and what is not closed. The
induction is on the parts of the first division; each part ends before the next line that opens a
block. -/
theorem body_injective {division other : Division sentinels} (same : division.body = other.body) :
    division.parts = other.parts ∧ division.tail = other.tail := by
  obtain ⟨gap, parts, tail, gapOpensNone, unclosed⟩ := division
  induction parts generalizing gap other with
  | nil =>
    obtain ⟨gap', parts', tail', gapOpensNone', unclosed'⟩ := other
    cases parts' with
    | nil => exact ⟨rfl, same⟩
    | cons part parts' =>
      have shape : tail = part.lines ++ (parts'.flatMap Enclosed.lines ++ tail') := by
        simpa [body] using same
      exact absurd shape (unclosed_ne_enclosed unclosed part _)
  | cons part parts ih =>
    obtain ⟨gap', parts', tail', gapOpensNone', unclosed'⟩ := other
    cases parts' with
    | nil =>
      have shape : tail' = part.lines ++ (parts.flatMap Enclosed.lines ++ tail) := by
        simpa [body] using same.symm
      exact absurd shape (unclosed_ne_enclosed unclosed' part _)
    | cons part' parts' =>
      -- What follows a part, its gap in front, is a division again.
      let rest : Division sentinels := ⟨part.gap, parts, tail, part.gapOpensNone, unclosed⟩
      let rest' : Division sentinels := ⟨part'.gap, parts', tail', part'.gapOpensNone, unclosed'⟩
      have split : part.first :: (part.block ++ part.last :: rest.lines) =
          part'.first :: (part'.block ++ part'.last :: rest'.lines) := by
        simpa [body, Enclosed.lines, lines, rest, rest'] using same
      obtain ⟨first, behind⟩ := List.cons.inj split
      obtain ⟨block, behind⟩ := split_unique part.staysOpen part'.staysOpen
        (by simp [part.closes]) (by simp [part'.closes]) behind
      obtain ⟨last, behind⟩ := List.cons.inj behind
      obtain ⟨gap, behind⟩ := split_unique part.gapOpensNone part'.gapOpensNone
        rest.opens_head_body rest'.opens_head_body behind
      obtain ⟨later, ending⟩ := ih part.gap part.gapOpensNone behind
      exact ⟨congrArg₂ List.cons (Enclosed.ext first block last gap) later, ending⟩

theorem lines_injective {division other : Division sentinels}
    (same : division.lines = other.lines) : division = other := by
  obtain ⟨gap, behind⟩ := split_unique division.gapOpensNone other.gapOpensNone
    division.opens_head_body other.opens_head_body same
  obtain ⟨parts, tail⟩ := body_injective behind
  exact Division.ext gap parts tail

theorem collect_unclosed {tail : List String} (unclosed : IsUnclosed sentinels tail) :
    collect sentinels.opens sentinels.closes none tail = [] := by
  rcases unclosed with rfl | ⟨first, held, rfl, opens, staysOpen⟩
  · rfl
  · have kept : collect sentinels.opens sentinels.closes (some []) (held ++ []) = [] :=
      collect_held staysOpen [] []
    rw [List.append_nil] at kept
    rw [collect, opens, if_pos rfl, kept]

/-- Scanning the lines of a division gives its blocks. -/
theorem extract_lines (division : Division sentinels) :
    extract sentinels division.lines = division.blocks := by
  change collect sentinels.opens sentinels.closes none division.lines = division.blocks
  rw [lines, collect_gap division.gapOpensNone, body, blocks]
  induction division.parts with
  | nil => exact collect_unclosed division.unclosed
  | cons part parts ih =>
    have shape : (part :: parts).flatMap Enclosed.lines ++ division.tail =
        part.first :: (part.block ++ part.last ::
          (part.gap ++ (parts.flatMap Enclosed.lines ++ division.tail))) := by
      simp [Enclosed.lines]
    rw [shape, collect_block part.opens part.staysOpen part.closes,
      collect_gap part.gapOpensNone, ih, List.map_cons]

end Division

/-- With a comment marker, scanning lines gives exactly the blocks of their division, and there is
exactly one. The sentinels may be any texts, also the same one or one that is empty. -/
theorem extractChecked_iff_division (sentinels : Sentinels) (marked : sentinels.marker ≠ [])
    (lines : List String) :
    (∀ blocks, extractChecked sentinels lines = .ok blocks ↔
      ∃ division : Division sentinels, division.lines = lines ∧ division.blocks = blocks) ∧
    ∃! division : Division sentinels, division.lines = lines := by
  obtain ⟨division, divided⟩ := (exists_division sentinels lines).1
  have notEmpty : sentinels.marker.isEmpty = false := by simpa using marked
  have scanned : extractChecked sentinels lines = .ok division.blocks := by
    rw [extractChecked, notEmpty, Bool.false_and, if_neg Bool.false_ne_true, ← divided,
      division.extract_lines]
  refine ⟨fun blocks => ⟨fun result => ?_, ?_⟩, division, divided, ?_⟩
  · exact ⟨division, divided, Except.ok.inj (scanned.symm.trans result)⟩
  · rintro ⟨other, sameLines, rfl⟩
    rw [scanned, Division.lines_injective (divided.trans sameLines.symm)]
  · intro other sameLines
    exact Division.lines_injective (sameLines.trans divided.symm)

/-- Sentinels of which the closing one starts the opening one. -/
def nestedSentinels : Sentinels :=
  ⟨"#", "doc \x7b", "doc"⟩

/-- A line that is both sentinels opens a block, and inside of one it closes it. -/
theorem extractChecked_iff_division_nested :
    nestedSentinels.marker ≠ [] ∧
      ∃ division : Division nestedSentinels,
        division.lines = ["# doc", "# doc \x7b", "x", "# doc \x7b", "y", "# doc \x7b", "z"] ∧
          division.blocks = [["x"]] := by
  have marked : nestedSentinels.marker ≠ [] := by decide
  exact ⟨marked, ((extractChecked_iff_division nestedSentinels marked _).1 _).1 (by decide)⟩

end Block

end EndpointDocs
