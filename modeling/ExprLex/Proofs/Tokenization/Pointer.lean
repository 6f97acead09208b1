import ExprLex.Proofs.Text.Lines
import ExprLex.Proofs.Tokenization.ErrorPosition

/-!
# Where the Caret Stands

The pointer of an error is the expression with a caret in a line of its own behind it. The caret is
as far from the start of that line as the position of the error is from the start of the expression.
It stands below the character at that position if the expression is a single line. If there is a
line feed in the expression, it does not: one behind the character lies between the two, and one
before it moves the character to the left of the caret.
-/

namespace ExprLex

namespace SyntaxError

/-- The caret of a pointer, which is its last character, is in the line behind that of the character
at the position of the error, and in the same column. -/
def PointsBelow (e : SyntaxError) (expression : String) : Prop :=
  let text := (e.pointer expression).toList
  ∃ i caret : Nat, e.position = i ∧ i < expression.toList.length ∧
    caret + 1 = text.length ∧ text[caret]? = some '^' ∧
    Text.lineAt text caret = Text.lineAt text i + 1 ∧
    Text.columnAt text caret = Text.columnAt text i

variable {e : SyntaxError} {expression : String} {i : Nat}

/-! ## The layout of a pointer -/

/-- The place of the caret in a pointer. -/
def caretIndex (e : SyntaxError) (expression : String) : Nat :=
  (expression.toList ++ '\n' :: List.replicate e.position.toNat ' ').length

/-- A pointer is the expression, a line feed, and blanks in front of the caret. -/
theorem toList_pointer (e : SyntaxError) (expression : String) :
    (e.pointer expression).toList =
      expression.toList ++ '\n' :: List.replicate e.position.toNat ' ' ++ ['^'] := by
  simp [pointer]

theorem length_toList_pointer (e : SyntaxError) (expression : String) :
    (e.pointer expression).toList.length = e.caretIndex expression + 1 := by
  rw [toList_pointer, List.length_append, caretIndex]
  rfl

theorem getElem?_caretIndex (e : SyntaxError) (expression : String) :
    (e.pointer expression).toList[e.caretIndex expression]? = some '^' := by
  rw [toList_pointer, caretIndex, List.getElem?_concat_length]

theorem not_mem_replicate_space (n : Nat) : '\n' ∉ List.replicate n ' ' := by
  intro h
  cases List.eq_of_mem_replicate h

/-- The caret is in the line behind the last one of the expression. -/
theorem lineAt_caretIndex (e : SyntaxError) (expression : String) :
    Text.lineAt (e.pointer expression).toList (e.caretIndex expression) =
      expression.toList.count '\n' + 1 := by
  rw [toList_pointer, caretIndex, Text.lineAt_append (Nat.le_refl _),
    Text.lineAt_last (not_mem_replicate_space _)]

/-- The column of the caret is the position of the error. -/
theorem columnAt_caretIndex (e : SyntaxError) (expression : String) :
    Text.columnAt (e.pointer expression).toList (e.caretIndex expression) = e.position.toNat := by
  rw [toList_pointer, caretIndex, Text.columnAt_append (Nat.le_refl _),
    Text.columnAt_last (not_mem_replicate_space _), List.length_replicate]

theorem lineAt_pointer (hi : i ≤ expression.toList.length) :
    Text.lineAt (e.pointer expression).toList i = Text.lineAt expression.toList i := by
  rw [toList_pointer, List.append_assoc, Text.lineAt_append hi]

theorem columnAt_pointer (hi : i ≤ expression.toList.length) :
    Text.columnAt (e.pointer expression).toList i = Text.columnAt expression.toList i := by
  rw [toList_pointer, List.append_assoc, Text.columnAt_append hi]

/-! ## When the caret is in place -/

/-- For an error at a place in an expression, the caret is in place exactly if there is no line feed
in the expression. -/
theorem pointsBelow_iff (hposition : e.position = i) (hi : i < expression.toList.length) :
    e.PointsBelow expression ↔ '\n' ∉ expression.toList := by
  constructor
  · rintro ⟨j, caret, hj, -, hcaret, -, hline, hcolumn⟩ hmem
    obtain rfl : i = j := Int.ofNat_inj.mp (hposition.symm.trans hj)
    obtain rfl : caret = e.caretIndex expression :=
      Nat.succ.inj (hcaret.trans (length_toList_pointer e expression))
    rw [lineAt_caretIndex, lineAt_pointer hi.le, Nat.add_right_cancel_iff] at hline
    rw [columnAt_caretIndex, columnAt_pointer hi.le, hposition, Int.toNat_natCast] at hcolumn
    rw [← List.take_append_drop i expression.toList] at hmem
    rcases List.mem_append.mp hmem with hbefore | hbehind
    · -- the character is further to the left than the caret
      exact Nat.ne_of_gt (Text.columnAt_lt_of_mem hbefore) hcolumn
    · -- the line of the character is not the last one
      exact Text.lineAt_eq_count_iff.mp hline.symm hbehind
  · intro hmem
    refine ⟨i, e.caretIndex expression, hposition, hi, (length_toList_pointer e expression).symm,
      getElem?_caretIndex e expression, ?_, ?_⟩
    · have hlast : '\n' ∉ expression.toList.drop i := fun h => hmem (List.mem_of_mem_drop h)
      rw [lineAt_caretIndex, lineAt_pointer hi.le, Text.lineAt_eq_count_iff.mpr hlast]
    · have hfirst : '\n' ∉ expression.toList.take i := fun h => hmem (List.mem_of_mem_take h)
      rw [columnAt_caretIndex, columnAt_pointer hi.le, hposition, Int.toNat_natCast,
        Text.columnAt_of_not_mem hfirst hi.le]

end SyntaxError

/-! ## Errors of expressions -/

variable {table : OperatorTable} {expression : String} {e : SyntaxError}

/-- **Where the caret stands.** When an expression is refused, the caret stands in a line of its own
behind the expression, at the column that is the position of the error. So it is below the character
at that position exactly if there is no line feed in the expression. -/
theorem pointsBelow_iff_of_tokenize (h : tokenize table expression = .error e) :
    (Text.lineAt (e.pointer expression).toList (e.caretIndex expression) =
        expression.toList.count '\n' + 1 ∧
      (Text.columnAt (e.pointer expression).toList (e.caretIndex expression) : Int) =
        e.position) ∧
      (e.PointsBelow expression ↔ '\n' ∉ expression.toList) := by
  obtain ⟨i, hlocated⟩ := exists_located_of_tokenize h
  refine ⟨⟨e.lineAt_caretIndex expression, ?_⟩,
    SyntaxError.pointsBelow_iff hlocated.position hlocated.lt_length⟩
  rw [SyntaxError.columnAt_caretIndex, hlocated.position, Int.toNat_natCast]

/-- The blank in `(5* )` at which the missing operand is told has the caret below it. -/
theorem pointsBelow_product_sign :
    tokenize .standard "(5* )" = .error (.missingRight "*" 3) ∧
      (SyntaxError.missingRight "*" 3).PointsBelow "(5* )" := by
  have h : tokenize .standard "(5* )" = .error (.missingRight "*" 3) := by decide +kernel
  exact ⟨h, (pointsBelow_iff_of_tokenize h).2.mpr (by decide)⟩

/-- Line feeds are passed over in an expression, but the caret does not take them into account: in
this one it stands two columns to the right of the character. -/
theorem not_pointsBelow_second_line :
    tokenize .standard "5\n#" = .error (.unknownSymbol "#" 2) ∧
      ¬(SyntaxError.unknownSymbol "#" 2).PointsBelow "5\n#" := by
  refine ⟨by decide +kernel, ?_⟩
  rw [SyntaxError.pointsBelow_iff (i := 2) rfl (by decide)]
  decide

end ExprLex
