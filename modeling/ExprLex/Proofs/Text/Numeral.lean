import ExprLex.Proofs.Text.Classes

/-!
# The Texts of Numbers

A number is written with decimal digits and at most one point, and with at least one digit. Such
a text is either an integer or a decimal, and both grow from the left by one character at a time.
-/

namespace ExprLex.Text

/-- Decimal digits and at most one point, with at least one digit. -/
def IsNumeral (cs : List Char) : Prop :=
  (∀ c ∈ cs, isNumeric c = true) ∧ cs.count '.' ≤ 1 ∧ ∃ c ∈ cs, isDigit c = true

/-- Digits alone, at least one of them. -/
def IsInteger (cs : List Char) : Prop :=
  cs ≠ [] ∧ ∀ c ∈ cs, isDigit c = true

/-- Digits with a point before, among or behind them. -/
def IsDecimal (cs : List Char) : Prop :=
  ∃ whole fraction, cs = whole ++ '.' :: fraction ∧ (∀ c ∈ whole, isDigit c = true)
    ∧ (∀ c ∈ fraction, isDigit c = true) ∧ (whole ≠ [] ∨ fraction ≠ [])

variable {c : Char} {cs : List Char}

/-- Of the characters of numbers, all but the point are digits. -/
theorem isDigit_iff_of_ne (h : c ≠ '.') : isDigit c = true ↔ isNumeric c = true := by
  simp [isNumeric, h]

private theorem not_mem_of_digits (h : ∀ c ∈ cs, isDigit c = true) : '.' ∉ cs := by
  intro hmem
  have hpoint := h '.' hmem
  revert hpoint
  decide

private theorem digits_of_not_mem (h : ∀ c ∈ cs, isNumeric c = true) (hpoint : '.' ∉ cs) :
    ∀ c ∈ cs, isDigit c = true := by
  intro c hc
  have hne : c ≠ '.' := by
    intro heq
    subst heq
    exact hpoint hc
  exact (isDigit_iff_of_ne hne).mpr (h c hc)

theorem IsInteger.isNumeral (h : IsInteger cs) : IsNumeral cs := by
  obtain ⟨hne, hdigits⟩ := h
  obtain ⟨c, hc⟩ := List.exists_mem_of_ne_nil cs hne
  refine ⟨fun c hc => isNumeric_of_isDigit (hdigits c hc), ?_, c, hc, hdigits c hc⟩
  rw [List.count_eq_zero.mpr (not_mem_of_digits hdigits)]
  exact Nat.zero_le 1

theorem IsDecimal.isNumeral (h : IsDecimal cs) : IsNumeral cs := by
  obtain ⟨whole, fraction, rfl, hwhole, hfraction, hne⟩ := h
  refine ⟨?_, ?_, ?_⟩
  · intro c hc
    rcases List.mem_append.mp hc with hc | hc
    · exact isNumeric_of_isDigit (hwhole c hc)
    · rcases List.mem_cons.mp hc with rfl | hc
      · rfl
      · exact isNumeric_of_isDigit (hfraction c hc)
  · have hzero := List.count_eq_zero.mpr (not_mem_of_digits hwhole)
    have hzero' := List.count_eq_zero.mpr (not_mem_of_digits hfraction)
    simp [List.count_append, hzero, hzero']
  · rcases hne with hne | hne
    · obtain ⟨c, hc⟩ := List.exists_mem_of_ne_nil _ hne
      exact ⟨c, by simp [hc], hwhole c hc⟩
    · obtain ⟨c, hc⟩ := List.exists_mem_of_ne_nil _ hne
      exact ⟨c, by simp [hc], hfraction c hc⟩

/-- The text of a number is that of an integer or that of a decimal. -/
theorem isNumeral_iff : IsNumeral cs ↔ IsInteger cs ∨ IsDecimal cs := by
  constructor
  · intro h
    rcases h with ⟨hnumeric, hcount, digit, hmem, hdigit⟩
    by_cases hpoint : '.' ∈ cs
    · -- cut at the point, which cannot stand on either side once more
      right
      obtain ⟨whole, fraction, rfl⟩ := List.append_of_mem hpoint
      simp only [List.count_append, List.count_cons_self] at hcount
      have hwhole : '.' ∉ whole := List.count_eq_zero.mp (by omega)
      have hfraction : '.' ∉ fraction := List.count_eq_zero.mp (by omega)
      refine ⟨whole, fraction, rfl, ?_, ?_, ?_⟩
      · exact digits_of_not_mem (fun c hc => hnumeric c (by simp [hc])) hwhole
      · exact digits_of_not_mem (fun c hc => hnumeric c (by simp [hc])) hfraction
      · cases whole with
        | cons d rest => exact .inl (List.cons_ne_nil d rest)
        | nil =>
          right
          intro hnil
          subst hnil
          rw [List.mem_singleton.mp hmem] at hdigit
          revert hdigit
          decide
    · left
      exact ⟨List.ne_nil_of_mem hmem, digits_of_not_mem hnumeric hpoint⟩
  · intro h
    rcases h with h | h
    · exact h.isNumeral
    · exact h.isNumeral

/-! ## Growing by one character -/

theorem isInteger_singleton (h : isDigit c = true) : IsInteger [c] := by
  refine ⟨List.cons_ne_nil c [], ?_⟩
  intro d hd
  rw [List.mem_singleton.mp hd]
  exact h

theorem isDecimal_point_digit (h : isDigit c = true) : IsDecimal ['.', c] :=
  ⟨[], [c], rfl, by simp, by simpa using h, .inr (List.cons_ne_nil c [])⟩

theorem IsInteger.append_digit (h : IsInteger cs) (hc : isDigit c = true) :
    IsInteger (cs ++ [c]) := by
  refine ⟨by simp, ?_⟩
  intro d hd
  rcases List.mem_append.mp hd with hd | hd
  · exact h.2 d hd
  · rw [List.mem_singleton.mp hd]
    exact hc

/-- An integer becomes a decimal number by a point, which needs no digit behind it. -/
theorem IsInteger.append_point (h : IsInteger cs) : IsDecimal (cs ++ ['.']) :=
  ⟨cs, [], rfl, h.2, by simp, .inl h.1⟩

theorem IsDecimal.append_digit (h : IsDecimal cs) (hc : isDigit c = true) :
    IsDecimal (cs ++ [c]) := by
  obtain ⟨whole, fraction, rfl, hwhole, hfraction, -⟩ := h
  refine ⟨whole, fraction ++ [c], by simp, hwhole, ?_, .inr (by simp)⟩
  intro d hd
  rcases List.mem_append.mp hd with hd | hd
  · exact hfraction d hd
  · rw [List.mem_singleton.mp hd]
    exact hc

end ExprLex.Text
