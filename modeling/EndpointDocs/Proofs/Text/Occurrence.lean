import EndpointDocs.Proofs.Text.CodePoint
import EndpointDocs.Text.Cut
import Mathlib.Data.List.Infix

/-!
Occurrences of a mark in a text: finding one by cutting agrees with being an infix, the one found is
the first, and deleting all of them leaves the text between them.
-/
namespace EndpointDocs.Text

/-- A mark occurs in a text if the text goes on with it somewhere. -/
theorem occurs_iff_infix {mark : List Char} (nonempty : mark ≠ []) (text : List Char) :
    occurs mark text = true ↔ mark <:+: text := by
  induction text with
  | nil => simp [occurs, after?, nonempty]
  | cons c rest ih =>
    rw [List.infix_cons_iff, ← ih]
    simp only [occurs, after?]
    cases here : mark.isPrefixOf (c :: rest) with
    | true => simp [List.isPrefixOf_iff_prefix.1 here]
    | false =>
      have absent : ¬ mark <+: c :: rest := fun found => by
        rw [List.isPrefixOf_iff_prefix.2 found] at here
        cases here
      simp [absent]

/-- A mark at the very start is found there. -/
theorem after?_append {mark : List Char} (nonempty : mark ≠ []) (rest : List Char) :
    after? mark (mark ++ rest) = some rest := by
  obtain ⟨c, tail, rfl⟩ := List.exists_cons_of_ne_nil nonempty
  have isPrefix : (c :: tail).isPrefixOf (c :: (tail ++ rest)) = true := by
    rw [List.isPrefixOf_iff_prefix, ← List.cons_append]
    exact List.prefix_append _ _
  simp [after?, isPrefix]

/-- In `before ++ mark ++ rest` no occurrence of `mark` starts earlier than the one shown. -/
def IsFirst (mark before rest : List Char) : Prop :=
  ∀ earlier later, before ++ mark ++ rest = earlier ++ mark ++ later →
    before.length ≤ earlier.length

theorem isFirst_nil (mark rest : List Char) : IsFirst mark [] rest :=
  fun earlier _ _ => Nat.zero_le earlier.length

/-- Where the mark does not start with the text, its first occurrence is that in the rest. -/
theorem isFirst_cons_iff {mark before rest : List Char} {c : Char}
    (notHere : ¬ mark <+: c :: (before ++ mark ++ rest)) :
    IsFirst mark (c :: before) rest ↔ IsFirst mark before rest := by
  constructor
  · intro first earlier later same
    have longer := first (c :: earlier) later (by simpa using same)
    simpa using longer
  · intro first earlier later same
    cases earlier with
    | nil =>
      refine absurd ⟨later, ?_⟩ notHere
      simpa using same.symm
    | cons other earlier =>
      have tails : before ++ mark ++ rest = earlier ++ mark ++ later := by
        simpa using (List.cons.inj same).2
      simpa using first earlier later tails

/-- Cutting finds the first occurrence of a mark. -/
theorem after?_eq_some_iff {mark : List Char} (nonempty : mark ≠ []) (text rest : List Char) :
    after? mark text = some rest ↔
      ∃ before, text = before ++ mark ++ rest ∧ IsFirst mark before rest := by
  induction text with
  | nil => simp [after?, nonempty]
  | cons c tail ih =>
    rw [after?]
    split
    · rename_i here
      obtain ⟨behind, starts⟩ := List.isPrefixOf_iff_prefix.1 here
      rw [← starts, List.drop_left, Option.some_inj]
      constructor
      · rintro rfl
        exact ⟨[], rfl, isFirst_nil mark behind⟩
      · rintro ⟨before, same, first⟩
        have shortest := first [] behind (by simpa using same.symm)
        cases before with
        | nil => simpa using same
        | cons other before => simp at shortest
    · rename_i notHere
      rw [List.isPrefixOf_iff_prefix] at notHere
      rw [ih]
      constructor
      · rintro ⟨before, rfl, first⟩
        exact ⟨c :: before, rfl, (isFirst_cons_iff notHere).2 first⟩
      · rintro ⟨before, same, first⟩
        cases before with
        | nil => exact absurd ⟨rest, by simpa using same.symm⟩ notHere
        | cons other before =>
          obtain ⟨rfl, rfl⟩ := List.cons.inj same
          exact ⟨before, by simp, (isFirst_cons_iff (by simpa using notHere)).1 first⟩

/-- A mark with a half is found nowhere. -/
theorem after?_wide_eq_some_iff {mark : Wide} (nonempty : mark ≠ []) (text rest : List Char) :
    mark.after? text = some rest ↔
      ∃ chars, mark.chars? = some chars ∧
        ∃ before, text = before ++ chars ++ rest ∧ IsFirst chars before rest := by
  rw [Wide.after?, Option.bind_eq_some_iff]
  refine exists_congr fun chars => and_congr_right fun plain => ?_
  rw [Wide.eq_map_char_of_chars? plain] at nonempty
  exact after?_eq_some_iff (by simpa using nonempty) text rest

/-- The text without the occurrences of `mark`, which are found from the left. -/
def delete (mark : List Char) : List Char → List Char
  | [] => []
  | c :: rest =>
    if !mark.isEmpty && mark.isPrefixOf (c :: rest) then delete mark (rest.drop (mark.length - 1))
    else c :: delete mark rest
termination_by text => text.length
decreasing_by
  all_goals simp only [List.length_drop, List.length_cons]; omega

/-- A character that starts no occurrence stays. -/
theorem delete_cons_of_ne {first c : Char} (mark rest : List Char) (different : c ≠ first) :
    delete (first :: mark) (c :: rest) = c :: delete (first :: mark) rest := by
  rw [delete]
  simp [Ne.symm different]

theorem delete_append_of_not_mem {first : Char} (mark text rest : List Char)
    (absent : first ∉ text) :
    delete (first :: mark) (text ++ rest) = text ++ delete (first :: mark) rest := by
  induction text with
  | nil => rfl
  | cons c text ih =>
    rw [List.mem_cons, not_or] at absent
    rw [List.cons_append, delete_cons_of_ne _ _ (Ne.symm absent.1), ih absent.2, List.cons_append]

theorem delete_mark_append (first : Char) (mark rest : List Char) :
    delete (first :: mark) (first :: mark ++ rest) = delete (first :: mark) rest := by
  rw [List.cons_append, delete]
  simp

end EndpointDocs.Text
