import ExprLex.Text.CharClass

/-!
# Character Classes Do Not Overlap

The characters with a fixed meaning in expressions are the digits, the point and the brackets. A
blank is none of them, so that nothing is lost when blanks are taken out of an expression before
it is read.
-/

namespace ExprLex.Text

/-! ## Characters with a fixed meaning -/

/-- Whether a character may stand in a number. -/
def isNumeric (c : Char) : Bool :=
  isDigit c || c == '.'

/-- Whether a character has a meaning that no operator table can change. -/
def isReserved (c : Char) : Bool :=
  isNumeric c || c == '(' || c == ')'

theorem isNumeric_of_isDigit {c : Char} (h : isDigit c = true) : isNumeric c = true := by
  simp only [isNumeric, h, Bool.true_or]

theorem isReserved_of_isNumeric {c : Char} (h : isNumeric c = true) : isReserved c = true := by
  simp only [isReserved, h, Bool.true_or]

theorem isNumeric_of_not_isReserved {c : Char} (h : isReserved c = false) :
    isNumeric c = false := by
  simp only [isReserved, Bool.or_eq_false_iff] at h
  exact h.1.1

/-- Fixed meanings are those of digits, of the point and of the brackets. -/
theorem isReserved_eq_false_iff {c : Char} :
    isReserved c = false ↔ isDigit c = false ∧ c ≠ '.' ∧ c ≠ '(' ∧ c ≠ ')' := by
  simp only [isReserved, isNumeric, Bool.or_eq_false_iff, beq_eq_false_iff_ne, and_assoc, ne_eq]

/-! ## Blanks and digits -/

/-- A number is among the code points of a class only by one of its ranges. -/
theorem CodePoints.exists_range_of_contains {points : CodePoints} {n : Nat}
    (h : points.contains n = true) : ∃ range ∈ points, range.1 ≤ n ∧ n ≤ range.2 := by
  induction points with
  | nil => simp [CodePoints.contains] at h
  | cons range rest ih =>
    obtain ⟨low, high⟩ := range
    simp only [CodePoints.contains] at h
    split at h
    · simp at h
    · rename_i hlow
      split at h
      · rename_i hhigh
        exact ⟨(low, high), List.mem_cons_self, Nat.le_of_not_lt hlow, hhigh⟩
      · obtain ⟨range, hmem, hrange⟩ := ih h
        exact ⟨range, List.mem_cons_of_mem _ hmem, hrange⟩

/-- A code point with a value as a digit is at most nine places behind one of the zeros. -/
theorem exists_zero_of_digitValueIn {zeros : List Nat} {n value : Nat}
    (h : digitValueIn zeros n = some value) : ∃ first ∈ zeros, first ≤ n ∧ n < first + 10 := by
  induction zeros with
  | nil => simp [digitValueIn] at h
  | cons first rest ih =>
    simp only [digitValueIn] at h
    split at h
    · simp at h
    · rename_i hlow
      split at h
      · rename_i hhigh
        exact ⟨first, List.mem_cons_self, Nat.le_of_not_lt hlow, hhigh⟩
      · obtain ⟨first', hmem, hfirst⟩ := ih h
        exact ⟨first', List.mem_cons_of_mem _ hmem, hfirst⟩

/-- The ranges of the blanks do not meet those of the digits. -/
private theorem blankPoints_apart_digitZeros :
    ∀ range ∈ blankPoints, ∀ first ∈ digitZeros, range.2 < first ∨ first + 9 < range.1 := by
  decide

theorem isDigit_of_isBlank {c : Char} (h : isBlank c = true) : isDigit c = false := by
  cases hv : digitValue? c with
  | none => simp only [isDigit, hv, Option.isSome_none]
  | some value =>
    obtain ⟨range, hrange, hlow, hhigh⟩ := CodePoints.exists_range_of_contains h
    obtain ⟨first, hfirst, hle, hlt⟩ := exists_zero_of_digitValueIn hv
    -- the code point would lie in a range of blanks and among the ten digits behind a zero
    have hapart := blankPoints_apart_digitZeros range hrange first hfirst
    omega

/-- No blank has a fixed meaning of its own. -/
theorem isReserved_of_isBlank {c : Char} (h : isBlank c = true) : isReserved c = false := by
  refine isReserved_eq_false_iff.mpr ⟨isDigit_of_isBlank h, ?_, ?_, ?_⟩
  all_goals
    intro heq
    subst heq
    revert h
    decide

theorem isBlank_of_isNumeric {c : Char} (h : isNumeric c = true) : isBlank c = false := by
  cases hb : isBlank c with
  | false => rfl
  | true =>
    have := isReserved_of_isBlank hb
    rw [isReserved_of_isNumeric h] at this
    cases this

end ExprLex.Text
