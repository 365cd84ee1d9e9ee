import EndpointDocs.Text.Blank
import EndpointDocs.Text.Word

/-!
Trimming: what is left has no blank at either end, and a text without blanks at its ends is left as
it stands. No word character is a blank.
-/
namespace EndpointDocs.Text

section Ends

variable {α : Type}

/-- A text that neither starts nor ends with a character that satisfies `p`. -/
structure IsTrimmed (p : α → Bool) (text : List α) : Prop where
  start : ∀ c ∈ text.head?, p c = false
  stop : ∀ c ∈ text.getLast?, p c = false

theorem not_of_mem_head?_dropWhile (p : α → Bool) (text : List α) :
    ∀ c ∈ (text.dropWhile p).head?, p c = false := by
  intro c first
  have stopped := List.head?_dropWhile_not p text
  rw [Option.mem_def.1 first] at stopped
  exact stopped

/-- Dropping from the front keeps the last character, if anything is left. -/
theorem mem_getLast?_of_dropWhile {p : α → Bool} {text : List α} {c : α}
    (last : c ∈ (text.dropWhile p).getLast?) : c ∈ text.getLast? := by
  obtain ⟨before, parts⟩ := List.dropWhile_suffix p (l := text)
  rw [← parts, List.getLast?_append, Option.mem_def.1 last]
  rfl

theorem trimBy_isTrimmed (p : α → Bool) (text : List α) : IsTrimmed p (trimBy p text) where
  start := by
    intro c first
    rw [trimBy, List.head?_reverse] at first
    have kept := mem_getLast?_of_dropWhile first
    rw [List.getLast?_reverse] at kept
    exact not_of_mem_head?_dropWhile p text c kept
  stop := by
    intro c last
    rw [trimBy, List.getLast?_reverse] at last
    exact not_of_mem_head?_dropWhile p _ c last

theorem dropWhile_of_start {p : α → Bool} {text : List α}
    (start : ∀ c ∈ text.head?, p c = false) : text.dropWhile p = text := by
  cases text with
  | nil => rfl
  | cons c rest => simp [start c rfl]

theorem trimBy_of_isTrimmed {p : α → Bool} {text : List α} (trimmed : IsTrimmed p text) :
    trimBy p text = text := by
  have stop : ∀ c ∈ text.reverse.head?, p c = false := by
    rw [List.head?_reverse]
    exact trimmed.stop
  rw [trimBy, dropWhile_of_start trimmed.start, dropWhile_of_start stop, List.reverse_reverse]

theorem trimBy_cons_of_pos {p : α → Bool} {c : α} (text : List α) (blank : p c = true) :
    trimBy p (c :: text) = trimBy p text := by
  simp [trimBy, blank]

theorem trimBy_concat_of_pos {p : α → Bool} {c : α} (text : List α) (blank : p c = true) :
    trimBy p (text ++ [c]) = trimBy p text := by
  simp only [trimBy, List.dropWhile_append]
  split
  · rename_i nothing
    simp [List.isEmpty_iff.1 nothing, blank]
  · simp [blank]

theorem trimBy_append_of_forall {p : α → Bool} {front : List α} (text : List α)
    (removed : ∀ c ∈ front, p c = true) : trimBy p (front ++ text) = trimBy p text := by
  rw [trimBy, List.dropWhile_append_of_pos removed, trimBy]

theorem trimBy_eq_nil {p : α → Bool} {text : List α} (removed : ∀ c ∈ text, p c = true) :
    trimBy p text = [] := by
  rw [← List.append_nil text, trimBy_append_of_forall _ removed]
  rfl

/-- Removable characters around a text are all that trimming takes away. -/
theorem trimBy_around {p : α → Bool} {front text back : List α}
    (frontRemoved : ∀ c ∈ front, p c = true) (backRemoved : ∀ c ∈ back, p c = true)
    (trimmed : IsTrimmed p text) : trimBy p (front ++ text ++ back) = text := by
  rw [List.append_assoc, trimBy_append_of_forall _ frontRemoved]
  by_cases nothing : text = []
  · subst nothing
    exact trimBy_eq_nil backRemoved
  · have start : ∀ c ∈ (text ++ back).head?, p c = false := by
      obtain ⟨first, rest, rfl⟩ := List.exists_cons_of_ne_nil nothing
      exact trimmed.start
    have stop : ∀ c ∈ text.reverse.head?, p c = false := by
      rw [List.head?_reverse]
      exact trimmed.stop
    have removed : ∀ c ∈ back.reverse, p c = true :=
      fun c listed => backRemoved c (List.mem_reverse.1 listed)
    rw [trimBy, dropWhile_of_start start, List.reverse_append,
      List.dropWhile_append_of_pos removed, dropWhile_of_start stop, List.reverse_reverse]

/-- A text is what trimming leaves, with removable characters around it. -/
theorem exists_around_trimBy (p : α → Bool) (text : List α) :
    ∃ front back, text = front ++ trimBy p text ++ back ∧ (∀ c ∈ front, p c = true) ∧
      ∀ c ∈ back, p c = true := by
  refine ⟨text.takeWhile p, ((text.dropWhile p).reverse.takeWhile p).reverse, ?_, ?_, ?_⟩
  · rw [List.append_assoc, trimBy, ← List.reverse_append, List.takeWhile_append_dropWhile,
      List.reverse_reverse, List.takeWhile_append_dropWhile]
  · exact List.all_eq_true.1 List.all_takeWhile
  · exact fun c listed => List.all_eq_true.1 List.all_takeWhile c (List.mem_reverse.1 listed)

/-- A text that starts with a character that is not to be removed still does. -/
theorem head?_trimBy_cons {p : α → Bool} {c : α} (text : List α) (kept : p c = false) :
    (trimBy p (c :: text)).head? = some c := by
  obtain ⟨front, back, whole, frontRemoved, backRemoved⟩ := exists_around_trimBy p (c :: text)
  have removedNot : p c ≠ true := by simp [kept]
  cases front with
  | cons first front =>
    obtain ⟨rfl, _⟩ := List.cons.inj whole
    exact absurd (frontRemoved c List.mem_cons_self) removedNot
  | nil =>
    cases trimmed : trimBy p (c :: text) with
    | nil =>
      rw [trimmed] at whole
      have allRemoved : c :: text = back := whole
      exact absurd (backRemoved c (allRemoved ▸ List.mem_cons_self)) removedNot
    | cons first rest =>
      rw [trimmed] at whole
      obtain ⟨rfl, _⟩ := List.cons.inj whole
      rfl

/-- What does not depend on removable characters at the ends is the same after trimming. -/
theorem eq_of_trimBy {β : Type} {p : α → Bool} (view : List α → β)
    (front : ∀ c text, p c = true → view (c :: text) = view text)
    (back : ∀ c text, p c = true → view (text ++ [c]) = view text) (text : List α) :
    view (trimBy p text) = view text := by
  have dropped (text : List α) : view (text.dropWhile p) = view text := by
    induction text with
    | nil => rfl
    | cons c rest ih =>
      rw [List.dropWhile_cons]
      split
      · rename_i removed
        rw [ih, front c rest removed]
      · rfl
  have droppedLast (text : List α) : view (text.dropWhile p).reverse = view text.reverse := by
    induction text with
    | nil => rfl
    | cons c rest ih =>
      rw [List.dropWhile_cons]
      split
      · rename_i removed
        rw [ih, List.reverse_cons, back c _ removed]
      · rfl
  rw [trimBy, droppedLast, List.reverse_reverse, dropped]

/-- What does not satisfy the condition is not dropped. -/
theorem mem_dropWhile_of_neg {p : α → Bool} {c : α} {text : List α} (listed : c ∈ text)
    (kept : p c = false) : c ∈ text.dropWhile p := by
  induction text with
  | nil => cases listed
  | cons first rest ih =>
    rw [List.dropWhile_cons]
    split
    · rename_i dropped
      rcases List.mem_cons.1 listed with rfl | later
      · rw [kept] at dropped
        cases dropped
      · exact ih later
    · exact listed

/-- Trimming keeps every character that is not to be removed. -/
theorem mem_trimBy_of_neg {p : α → Bool} {c : α} {text : List α} (listed : c ∈ text)
    (kept : p c = false) : c ∈ trimBy p text := by
  have front := mem_dropWhile_of_neg listed kept
  exact List.mem_reverse.2 (mem_dropWhile_of_neg (List.mem_reverse.2 front) kept)

theorem trimBy_sublist (p : α → Bool) (text : List α) : (trimBy p text).Sublist text := by
  obtain ⟨front, back, whole, _, _⟩ := exists_around_trimBy p text
  have inside : trimBy p text <:+: text := ⟨front, back, whole.symm⟩
  exact inside.sublist

theorem mem_of_mem_trimBy {p : α → Bool} {c : α} {text : List α}
    (listed : c ∈ trimBy p text) : c ∈ text :=
  (trimBy_sublist p text).mem listed

theorem IsTrimmed.ends_ne {p : α → Bool} {text : List α} (trimmed : IsTrimmed p text)
    {edge : α} (removed : p edge = true) :
    text.head? ≠ some edge ∧ text.getLast? ≠ some edge := by
  constructor
  · intro head
    rw [trimmed.start edge head] at removed
    cases removed
  · intro final
    rw [trimmed.stop edge final] at removed
    cases removed

/-- Only the ends count. -/
theorem IsTrimmed.around {p : α → Bool} {first last : List α}
    (startTrimmed : IsTrimmed p first) (stopTrimmed : IsTrimmed p last) (firstNonempty : first ≠ [])
    (lastNonempty : last ≠ []) (between : List α) :
    IsTrimmed p (first ++ (between ++ last)) where
  start := by
    intro c head
    obtain ⟨initial, rest, rfl⟩ := List.exists_cons_of_ne_nil firstNonempty
    exact startTrimmed.start c head
  stop := by
    intro c final
    have atEnd := List.getLast?_eq_some_getLast lastNonempty
    rw [← List.append_assoc, List.getLast?_append, atEnd] at final
    exact stopTrimmed.stop c (by rwa [atEnd])

theorem isTrimmed_of_ends {p : α → Bool} {text : List α} {first last : α}
    (head : text.head? = some first) (final : text.getLast? = some last)
    (firstKept : p first = false) (lastKept : p last = false) : IsTrimmed p text where
  start := by
    intro c isFirst
    rw [head, Option.mem_some_iff] at isFirst
    rwa [← isFirst]
  stop := by
    intro c isLast
    rw [final, Option.mem_some_iff] at isLast
    rwa [← isLast]

theorem isTrimmed_of_forall {p : α → Bool} {text : List α} (none : ∀ c ∈ text, p c = false) :
    IsTrimmed p text where
  start := fun c head => none c (List.mem_of_mem_head? head)
  stop := fun c final => none c (List.mem_of_mem_getLast? final)

end Ends

def blankCodes : List Nat :=
  List.range' 9 5 ++ List.range' 28 5 ++ [0x85, 0xA0, 0x1680] ++ List.range' 0x2000 11 ++
    [0x2028, 0x2029, 0x202F, 0x205F, 0x3000]

theorem toNat_mem_blankCodes {c : Char} (blank : isBlank c = true) : c.toNat ∈ blankCodes := by
  simp only [isBlank, Bool.or_eq_true, Bool.and_eq_true, decide_eq_true_eq, beq_iff_eq] at blank
  simp only [blankCodes, List.mem_append, List.mem_range'_1, List.mem_cons, List.not_mem_nil,
    or_false]
  omega

theorem isWord_of_blankCodes : ∀ n ∈ blankCodes, isWord (Char.ofNat n) = false := by
  decide +kernel

/-- No blank belongs to a word. -/
theorem isBlank_of_isWord {c : Char} (word : isWord c = true) : isBlank c = false := by
  cases blank : isBlank c with
  | false => rfl
  | true =>
    have notWord := isWord_of_blankCodes _ (toNat_mem_blankCodes blank)
    rw [Char.ofNat_toNat, word] at notWord
    cases notWord

end EndpointDocs.Text
