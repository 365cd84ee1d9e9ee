import EndpointDocs.Text.LowerCase

/-!
What lower case leaves alone. No character but the slash becomes a slash, above ASCII either, so
a slash in the lower case of a text was there before.
-/
namespace EndpointDocs.Text

/-- What all runs move their first member above, they move no code point below. -/
theorem lowerCode_gt {runs : List CaseRun} {bound n : Nat}
    (above : ∀ run ∈ runs, (bound : Int) < run.first + run.shift) (large : bound < n) :
    bound < lowerCode runs n := by
  induction runs with
  | nil => exact large
  | cons run rest ih =>
    obtain ⟨here, others⟩ := List.forall_mem_cons.1 above
    rw [lowerCode]
    split
    · exact large
    · split
      · omega
      · exact ih others

/-- A code point that no character has gives the NUL character. -/
theorem toNat_ofNat (n : Nat) : (Char.ofNat n).toNat = n ∨ (Char.ofNat n).toNat = 0 := by
  by_cases valid : n.isValidChar
  · have read : Char.ofNat n = Char.ofNatAux n valid := dif_pos valid
    exact .inl (congrArg Char.toNat read)
  · exact .inr (congrArg Char.toNat (dif_neg valid))

theorem slash_lt_lowerRuns :
    ∀ run ∈ lowerRuns, ('/'.toNat : Int) < run.first + run.shift := by
  decide +kernel

/-- Lower case makes a slash of nothing but a slash. -/
theorem slash_mem_of_mem_lowerChar {earlier later : List Char} {c : Char}
    (listed : '/' ∈ lowerChar earlier c later) : c = '/' := by
  unfold lowerChar at listed
  split at listed
  · rename_i ascii
    have checked : ∀ n < 128, '/' = (Char.ofNat n).toLower → Char.ofNat n = '/' := by decide
    have kept := checked c.toNat ascii
    rw [Char.ofNat_toNat] at kept
    exact kept (List.mem_singleton.1 listed)
  · rename_i large
    split at listed
    · simp at listed
    · split at listed
      · split at listed <;> simp at listed
      · rw [List.mem_singleton] at listed
        have above : '/'.toNat < lowerCode lowerRuns c.toNat :=
          lowerCode_gt slash_lt_lowerRuns (Nat.lt_of_lt_of_le (by decide) (Nat.not_lt.1 large))
        have value := toNat_ofNat (lowerCode lowerRuns c.toNat)
        rw [← listed] at value
        rcases value with same | zero
        · exact absurd same (Nat.ne_of_lt above)
        · exact absurd zero (by decide)

/-- The induction is on the text still to be read; what is written so far is carried along. -/
theorem slash_mem_of_mem_lowerFrom {earlier written text : List Char}
    (listed : '/' ∈ lowerFrom earlier written text) : '/' ∈ written ∨ '/' ∈ text := by
  induction text generalizing earlier written with
  | nil => exact .inl (List.mem_reverse.1 listed)
  | cons c later ih =>
    rcases ih listed with here | after
    · rcases List.mem_append.1 here with new | old
      · have same := slash_mem_of_mem_lowerChar (List.mem_reverse.1 new)
        exact .inr (same ▸ List.mem_cons_self)
      · exact .inl old
    · exact .inr (List.mem_cons_of_mem c after)

end EndpointDocs.Text
