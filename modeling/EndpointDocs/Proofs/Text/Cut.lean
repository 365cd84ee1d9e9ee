import EndpointDocs.Text.Cut

/-!
What cutting a text gives when it was put together around the character at which it is cut.
-/
namespace EndpointDocs.Text

/-- A run is cut off where the next character does not belong to it. -/
theorem span_append {α : Type} {p : α → Bool} {run rest : List α} (inRun : ∀ c ∈ run, p c = true)
    (ends : ∀ c ∈ rest.head?, p c = false) :
    (run ++ rest).takeWhile p = run ∧ (run ++ rest).dropWhile p = rest := by
  rw [List.takeWhile_append_of_pos inRun, List.dropWhile_append_of_pos inRun]
  cases rest with
  | nil => simp
  | cons c rest => simp [ends c rfl]

theorem bne_of_not_mem {α : Type} [BEq α] [LawfulBEq α] {c : α} {text : List α}
    (absent : c ∉ text) : ∀ other ∈ text, (other != c) = true :=
  fun _ listed => bne_iff_ne.2 fun same => absent (same ▸ listed)

/-- A text without a mark is skipped on the way to the mark. -/
theorem dropWhile_append_of_not_mem {c : Char} {text : List Char} (absent : c ∉ text)
    (rest : List Char) : (text ++ rest).dropWhile (· != c) = rest.dropWhile (· != c) :=
  List.dropWhile_append_of_pos (bne_of_not_mem absent)

theorem behind_sublist (c : Char) (text : List Char) : (behind c text).Sublist text :=
  (List.drop_sublist _ _).trans (List.dropWhile_sublist _)

theorem length_behind_le (c : Char) (text : List Char) :
    (behind c text).length ≤ text.length :=
  (behind_sublist c text).length_le

theorem mem_of_mem_behind {c other : Char} {text : List Char} (listed : other ∈ behind c text) :
    other ∈ text :=
  (behind_sublist c text).mem listed

theorem not_mem_before (c : Char) (text : List Char) : c ∉ before c text := by
  intro listed
  have kept := List.all_eq_true.1 (List.all_takeWhile (p := (· != c)) (l := text)) c listed
  simp at kept

theorem before_append {c : Char} {name : List Char} (absent : c ∉ name) (rest : List Char) :
    before c (name ++ c :: rest) = name :=
  (span_append (bne_of_not_mem absent) (by simp)).1

theorem behind_append {c : Char} {name : List Char} (absent : c ∉ name) (rest : List Char) :
    behind c (name ++ c :: rest) = rest := by
  rw [behind, dropWhile_append_of_not_mem absent]
  simp

theorem before_of_not_mem {c : Char} {text : List Char} (absent : c ∉ text) :
    before c text = text := by
  induction text with
  | nil => rfl
  | cons other text ih =>
    rw [List.mem_cons, not_or] at absent
    have kept := ih absent.2
    rw [before] at kept ⊢
    simp [Ne.symm absent.1, kept]

/-- The first piece of a text that is split is what comes before the first mark. -/
theorem splitOn_eq_before_cons (c : Char) (text : List Char) :
    ∃ others, text.splitOn c = before c text :: others := by
  induction text with
  | nil => exact ⟨[], rfl⟩
  | cons other text ih =>
    obtain ⟨others, split⟩ := ih
    rw [List.splitOn] at split
    rw [List.splitOn, List.splitOnP_cons_eq_if_modifyHead, split]
    by_cases here : other = c
    · exact ⟨before c text :: others, by simp [here, before]⟩
    · exact ⟨others, by simp [here, before]⟩

/-- What stands at the end without `c` is kept. -/
theorem afterLast_append {c : Char} (text : List Char) {suffix : List Char}
    (absent : c ∉ suffix) : afterLast c (text ++ suffix) = afterLast c text ++ suffix := by
  have absentToo : c ∉ suffix.reverse := fun listed => absent (List.mem_reverse.1 listed)
  rw [afterLast, List.reverse_append, List.takeWhile_append_of_pos (bne_of_not_mem absentToo)]
  simp [afterLast]

theorem afterLast_of_not_mem {c : Char} {text : List Char} (absent : c ∉ text) :
    afterLast c text = text :=
  afterLast_append [] absent

theorem afterLast_append_cons {c : Char} (text : List Char) {suffix : List Char}
    (absent : c ∉ suffix) : afterLast c (text ++ c :: suffix) = suffix := by
  have split : text ++ c :: suffix = (text ++ [c]) ++ suffix := by simp
  have nothing : afterLast c (text ++ [c]) = [] := by simp [afterLast]
  rw [split, afterLast_append _ absent, nothing, List.nil_append]

end EndpointDocs.Text
