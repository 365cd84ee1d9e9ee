import EndpointDocs.Proofs.Text.Trim
import Mathlib.Data.List.Infix

/-!
Digits among the word characters. Each range of digits lies in a range of word characters, so a
digit belongs to words and is no blank.
-/
namespace EndpointDocs.Text

theorem Ranges.exists_of_holds {ranges : Ranges} {n : Nat} (held : ranges.holds n = true) :
    ∃ range ∈ ranges, range.1 ≤ n ∧ n ≤ range.2 := by
  induction ranges with
  | nil => cases held
  | cons range rest ih =>
    obtain ⟨first, last⟩ := range
    rw [Ranges.holds] at held
    split at held
    · cases held
    · split at held
      · exact ⟨(first, last), List.mem_cons_self, by omega, by assumption⟩
      · obtain ⟨range, listed, inside⟩ := ih held
        exact ⟨range, List.mem_cons_of_mem _ listed, inside⟩

/-- In ascending ranges the search does not end before the range that holds a code point. -/
theorem Ranges.holds_of_mem {ranges : Ranges} {n : Nat} {range : Nat × Nat}
    (ascending : ranges.Pairwise fun a b => a.1 ≤ b.1) (listed : range ∈ ranges)
    (inside : range.1 ≤ n ∧ n ≤ range.2) : ranges.holds n = true := by
  induction ranges with
  | nil => cases listed
  | cons first rest ih =>
    obtain ⟨below, restAscending⟩ := List.pairwise_cons.1 ascending
    rcases List.mem_cons.1 listed with rfl | later
    · rw [Ranges.holds, if_neg (by omega), if_pos inside.2]
    · have notAbove := below range later
      rw [Ranges.holds, if_neg (by omega)]
      split
      · rfl
      · exact ih restAscending later

theorem wordRanges_ascending : wordRanges.Pairwise fun a b => a.1 ≤ b.1 := by
  have neighbours : wordRanges.IsChain fun a b => a.1 ≤ b.1 := by decide +kernel
  have transitive : IsTrans (Nat × Nat) fun a b => a.1 ≤ b.1 := ⟨fun _ _ _ => Nat.le_trans⟩
  exact neighbours.pairwise

/-- Every range of digits lies in a range of word characters. -/
theorem digitRanges_inside : (digitRanges.all fun digits => wordRanges.any fun range =>
    Nat.ble digits.2 range.2 && Nat.ble range.1 digits.1) = true := by
  decide +kernel

/-- Digits belong to words. -/
theorem isWord_of_isDigit {c : Char} (digit : isDigit c = true) : isWord c = true := by
  rw [isDigit] at digit
  rw [isWord]
  split at digit
  · rename_i ascii
    have alphanumeric : c.isAlphanum = true := Bool.or_eq_true_iff.2 (.inr digit)
    rw [if_pos ascii, alphanumeric, Bool.true_or]
  · obtain ⟨digits, listed, above, below⟩ := Ranges.exists_of_holds digit
    obtain ⟨range, inside, within⟩ :=
      List.any_eq_true.1 (List.all_eq_true.1 digitRanges_inside digits listed)
    rw [Bool.and_eq_true, Nat.ble_eq, Nat.ble_eq] at within
    rw [if_neg (by assumption)]
    exact Ranges.holds_of_mem wordRanges_ascending inside ⟨by omega, by omega⟩

theorem isDigit_eq_false {c : Char} (notWord : isWord c = false) : isDigit c = false := by
  cases digit : isDigit c with
  | false => rfl
  | true =>
    rw [isWord_of_isDigit digit] at notWord
    cases notWord

theorem isBlank_of_isDigit {c : Char} (digit : isDigit c = true) : isBlank c = false :=
  isBlank_of_isWord (isWord_of_isDigit digit)

end EndpointDocs.Text
