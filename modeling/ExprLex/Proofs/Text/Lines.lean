import Mathlib.Data.List.DropRight

/-!
# Lines of a Text

A line feed ends a line. A place in a text is told by its line, which is the number of line feeds
before it, and by its column, which is the number of characters before it in that line.
-/

namespace ExprLex.Text

/-- The line of a place in a text. -/
def lineAt (cs : List Char) (i : Nat) : Nat :=
  (cs.take i).count '\n'

/-- The column of a place in a text. -/
def columnAt (cs : List Char) (i : Nat) : Nat :=
  ((cs.take i).rtakeWhile (· ≠ '\n')).length

variable {cs before line rest : List Char} {i : Nat}

/-! ## What stands behind a place does not matter -/

/-- The line of a place depends only on what stands before it. -/
theorem lineAt_append (h : i ≤ before.length) : lineAt (before ++ rest) i = lineAt before i := by
  rw [lineAt, List.take_append_of_le_length h, lineAt]

theorem columnAt_append (h : i ≤ before.length) :
    columnAt (before ++ rest) i = columnAt before i := by
  rw [columnAt, List.take_append_of_le_length h, columnAt]

theorem lineAt_length (cs : List Char) : lineAt cs cs.length = cs.count '\n' := by
  rw [lineAt, List.take_length]

/-- The line of a place is the last one exactly if no line feed stands behind the place. -/
theorem lineAt_eq_count_iff : lineAt cs i = cs.count '\n' ↔ '\n' ∉ cs.drop i := by
  have hcount : cs.count '\n' = lineAt cs i + (cs.drop i).count '\n' := by
    rw [lineAt, ← List.count_append, List.take_append_drop]
  rw [hcount, ← List.count_eq_zero]
  omega

/-! ## The first line and the last one -/

/-- In the first line, columns are places. -/
theorem columnAt_of_not_mem (h : '\n' ∉ cs.take i) (hi : i ≤ cs.length) : columnAt cs i = i := by
  have hline : (cs.take i).rtakeWhile (· ≠ '\n') = cs.take i := by
    rw [List.rtakeWhile_eq_self_iff]
    intro c hc
    exact decide_eq_true fun hfeed => h (hfeed ▸ hc)
  rw [columnAt, hline, List.length_take, Nat.min_eq_left hi]

/-- Behind a line feed, a column is less than the number of characters before it. -/
theorem columnAt_lt_of_mem (h : '\n' ∈ cs.take i) : columnAt cs i < i := by
  have hsuffix := List.rtakeWhile_suffix (fun c => decide (c ≠ '\n')) (cs.take i)
  refine Nat.lt_of_lt_of_le (Nat.lt_of_le_of_ne hsuffix.length_le ?_) (List.length_take_le i cs)
  intro hlength
  have hall := List.rtakeWhile_eq_self_iff.mp (hsuffix.eq_of_length hlength)
  exact of_decide_eq_true (hall '\n' h) rfl

/-- The end of a text is in the line behind the last line feed. -/
theorem lineAt_last (h : '\n' ∉ line) :
    lineAt (before ++ '\n' :: line) (before ++ '\n' :: line).length = before.count '\n' + 1 := by
  rw [lineAt_length, List.count_append, List.count_cons_self, List.count_eq_zero.mpr h]

theorem columnAt_last (h : '\n' ∉ line) :
    columnAt (before ++ '\n' :: line) (before ++ '\n' :: line).length = line.length := by
  have hall : ∀ c ∈ line.reverse, decide (c ≠ '\n') = true := by
    intro c hc
    exact decide_eq_true fun hfeed => h (hfeed ▸ List.mem_reverse.mp hc)
  have hline : (before ++ '\n' :: line).rtakeWhile (· ≠ '\n') = line := by
    rw [List.rtakeWhile, List.reverse_append, List.reverse_cons, List.append_assoc,
      List.takeWhile_append_of_pos hall]
    simp
  rw [columnAt, List.take_length, hline]

/-- The digit in the second line is its third character. -/
example : lineAt "a\n b2".toList 4 = 1 ∧ columnAt "a\n b2".toList 4 = 2 := by
  decide

end ExprLex.Text
