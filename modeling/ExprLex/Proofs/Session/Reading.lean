import ExprLex.Proofs.Operator.Registration
import ExprLex.Proofs.Scanner.Fault
import ExprLex.Proofs.Scanner.Lexeme
import ExprLex.Session

/-!
# Reading by Hand

A session can have any text read in any way, fitting or not. Even so, a text is in progress as an
operator only if the table has it in that role, a failure changes nothing, and a point without
digits is either completed or left as it is.
-/

namespace ExprLex

/-- The role of an operator in progress. -/
def Pending.role? : Pending → Option Operator.Role
  | .sign => some .sign
  | .binary => some .binary
  | .postfixOp => some .postfixOp
  | _ => none

/-- An operator in progress is committed as the one that the table has in its role. -/
theorem Scanner.pendingToken?_of_role? {table : OperatorTable} {symbol : String} {p : Pending}
    {role : Operator.Role} (h : p.role? = some role) :
    pendingToken? table symbol p = (table.inRole? role symbol).map .operator := by
  cases p <;> cases h <;> rfl

namespace Reading

open Scanner

variable {table : OperatorTable} {text : String} {s s' : Scanner} {e : SyntaxError}
  {reading : Reading} {role : Operator.Role}

/-! ## Failures -/

private theorem readRight_error (h : readRight table text s = .error e s') : s' = s := by
  unfold readRight at h
  split at h
  · cases h
    rfl
  · split at h <;> cases h <;> rfl

private theorem readOperator_error (h : readOperator table text s = .error e s') : s' = s := by
  unfold readOperator at h
  -- in front of a lone point
  split at h
  · cases h
    rfl
  -- as a sign
  split at h
  · cases h
  -- without another role
  split at h
  · cases h
    rfl
  -- without a left operand
  split at h
  · cases h
    rfl
  · split at h <;> cases h

/-- A text that is refused changes nothing. -/
theorem step_error (h : reading.step table text s = .error e s') : s' = s := by
  cases reading with
  | digit =>
    change readDigit table text s = _ at h
    unfold readDigit at h
    split at h <;> cases h
  | point =>
    change readPoint table text s = _ at h
    unfold readPoint at h
    split at h <;> cases h <;> rfl
  | left =>
    change readLeft table text s = _ at h
    unfold readLeft at h
    split at h <;> cases h
    rfl
  | right => exact readRight_error h
  | operator => exact readOperator_error h

/-! ## Operators -/

/-- An operator is read in a role for which the table has one. -/
private theorem inRole?_of_readOperator (h : readOperator table text s = .ok () s')
    (hrole : s'.pending.role? = some role) :
    s'.symbol = text ∧ ∃ op, table.inRole? role text = some op := by
  unfold readOperator at h
  split at h
  · cases h
  split at h
  · rename_i hsign
    -- a sign, where an operand is awaited
    rw [Bool.and_eq_true] at hsign
    cases h
    rw [pending_next] at hrole
    cases hrole
    exact ⟨symbol_next .., Option.isSome_iff_exists.mp hsign.1⟩
  split at h
  · cases h
  rename_i hother
  split at h
  · cases h
  split at h
  · rename_i hpost
    cases h
    rw [pending_next] at hrole
    cases hrole
    -- an operator behind its operand
    exact ⟨symbol_next .., Option.isSome_iff_exists.mp hpost⟩
  · -- one of the two roles is left, and it is not the one behind an operand
    rename_i hpost
    cases h
    rw [pending_next] at hrole
    cases hrole
    have hbinary : (table.binary? text).isSome = true := by
      have hnone : (table.postfixOp? text).isNone = true := by simpa using hpost
      rw [hnone, Bool.and_true, Option.isNone_iff_eq_none] at hother
      exact Option.isSome_iff_ne_none.mpr hother
    exact ⟨symbol_next .., Option.isSome_iff_exists.mp hbinary⟩

/-- A text that was read is in progress as an operator only if the table has it in that role. -/
theorem inRole?_of_step (h : reading.step table text s = .ok () s')
    (hrole : s'.pending.role? = some role) :
    s'.symbol = text ∧ ∃ op, table.inRole? role text = some op := by
  -- nothing but the reading of an operator leaves an operator in progress
  cases reading with
  | digit =>
    change readDigit table text s = _ at h
    unfold readDigit at h
    split at h <;> cases h <;> simp [pending_next, Pending.role?] at hrole
  | point =>
    change readPoint table text s = _ at h
    unfold readPoint at h
    split at h <;> cases h <;> simp [pending_next, Pending.role?] at hrole
  | left =>
    change readLeft table text s = _ at h
    unfold readLeft at h
    split at h <;> cases h
    simp [pending_next, Pending.role?] at hrole
  | right =>
    change readRight table text s = _ at h
    unfold readRight at h
    split at h
    · cases h
    · split at h <;> cases h
      simp [pending_next, Pending.role?] at hrole
  | operator => exact inRole?_of_readOperator h hrole

/-! ## A point without digits -/

/-- Behind a point without digits, a text is refused or makes the number longer. -/
theorem step_of_lonePoint (reading : Reading) (table : OperatorTable) (text : String)
    (hp : s.pending = .lonePoint) :
    reading.step table text s = .ok () (s.extend text .decimal) ∨
      ∃ e, reading.step table text s = .error e s := by
  cases reading with
  | digit =>
    left
    -- a digit is the only thing that a point without digits takes
    show readDigit table text s = _
    simp only [readDigit, hp]
  | point =>
    right
    refine ⟨.multiplePoints s.position, ?_⟩
    show readPoint table text s = _
    simp only [readPoint, hp]
  | left =>
    right
    refine ⟨.trailingPoint (s.position - 1), ?_⟩
    show readLeft table text s = _
    simp only [readLeft, hp]
  | right =>
    right
    by_cases hd : s.brackets.depth = 0
    · refine ⟨.unmatchedRight s.position, ?_⟩
      show readRight table text s = _
      simp only [readRight, hd, if_true]
    · refine ⟨.trailingPoint (s.position - 1), ?_⟩
      show readRight table text s = _
      simp only [readRight, hd, hp, if_false]
  | operator =>
    right
    refine ⟨.trailingPoint (s.position - 1), ?_⟩
    show readOperator table text s = _
    simp only [readOperator, hp, if_true]

end Reading

/-- The same of a character that may also be passed over. -/
theorem Scanner.readChar_of_lonePoint {s : Scanner} (table : OperatorTable) (c : Char)
    (hp : s.pending = .lonePoint) :
    readChar table c s = .ok () s ∨
      readChar table c s = .ok () (s.extend (String.singleton c) .decimal) ∨
      ∃ e, readChar table c s = .error e s := by
  cases hread : readChar table c s with
  | error e failed =>
    obtain ⟨rfl, -⟩ := readChar_eq_error_iff.mp hread
    exact .inr (.inr ⟨e, rfl⟩)
  | ok _ read =>
    cases readChar_eq_ok_iff.mp hread with
    | skipped => exact .inl rfl
    | @extended p hext =>
      rw [hp] at hext
      cases hext
      exact .inr (.inl rfl)
    | begun hbegin => exact absurd hp hbegin.ne_lonePoint

end ExprLex
