import ExprLex.OperatorTable
import ExprLex.Proofs.Text.Classes

/-!
# The Roles of Operators

Every operator has exactly one of three roles: it is a sign, it stands behind its operand, or it
stands between two operands. A look-up by a role finds operators of that role only, and a
character is an operator if it has one of the roles.
-/

namespace ExprLex

/-! ## Roles of operators -/

namespace Operator

theorem isPostfixOp_of_isSign {op : Operator} (h : op.isSign = true) : op.isPostfixOp = false := by
  cases op <;> first | rfl | cases h

theorem isSign_of_isBinary {op : Operator} (h : op.isBinary = true) : op.isSign = false := by
  cases op <;> first | rfl | cases h

theorem isPostfixOp_of_isBinary {op : Operator} (h : op.isBinary = true) :
    op.isPostfixOp = false := by
  cases op <;> first | rfl | cases h

theorem isSign_of_isPostfixOp {op : Operator} (h : op.isPostfixOp = true) : op.isSign = false := by
  cases op <;> first | rfl | cases h

theorem isSign_or_isBinary_or_isPostfixOp (op : Operator) :
    op.isSign = true ∨ op.isBinary = true ∨ op.isPostfixOp = true := by
  cases op <;> decide

end Operator

/-! ## Look-ups by role -/

namespace OperatorTable

variable {table : OperatorTable} {symbol : String} {op : Operator}

theorem eq_singleton {c : Char} (h : symbol.toList = [c]) : symbol = String.singleton c := by
  rw [← String.ofList_toList (s := symbol), h, String.singleton_eq_ofList]

theorem passes_of_lookup {tests : List (Option OperatorTest)}
    (h : table.lookup symbol tests = some op) : ∀ test, some test ∈ tests → test op = true := by
  intro test hmem
  have hall := List.find?_some h
  simp only [List.all_eq_true] at hall
  simpa using hall (some test) hmem

theorem lookup_isSome_iff {tests : List (Option OperatorTest)} :
    (table.lookup symbol tests).isSome = true ↔
      ∃ op ∈ table.variants symbol, ∀ test ∈ tests, test.all (· op) = true := by
  simp only [lookup, List.find?_isSome, List.all_eq_true]

theorem isSign_of_sign? (h : table.sign? symbol = some op) : op.isSign = true := by
  have hunary := passes_of_lookup h Operator.isUnary (by simp)
  have hright := passes_of_lookup h Operator.isRightAssoc (by simp)
  simp only [Operator.isSign, hunary, hright, Bool.and_self]

theorem isBinary_of_binary? (h : table.binary? symbol = some op) : op.isBinary = true :=
  passes_of_lookup h Operator.isBinary (by simp)

theorem isPostfixOp_of_postfixOp? (h : table.postfixOp? symbol = some op) :
    op.isPostfixOp = true := by
  have hunary := passes_of_lookup h Operator.isUnary (by simp)
  have hleft := passes_of_lookup h Operator.isLeftAssoc (by simp)
  simp only [Operator.isPostfixOp, hunary, hleft, Bool.and_self]

theorem isOperator_iff_exists_mem :
    table.isOperator symbol = true ↔ ∃ op, op ∈ table.variants symbol := by
  simp only [isOperator, Bool.not_eq_true', List.isEmpty_eq_false_iff_exists_mem]

/-- A symbol is an operator if and only if it has one of the three roles. -/
theorem isOperator_iff :
    table.isOperator symbol = true ↔
      (table.sign? symbol).isSome = true ∨ (table.binary? symbol).isSome = true
        ∨ (table.postfixOp? symbol).isSome = true := by
  simp only [isOperator_iff_exists_mem, sign?, binary?, postfixOp?, lookup_isSome_iff]
  constructor
  · -- the role of the operator tells which look-up finds something
    intro h
    rcases h with ⟨op, hop⟩
    rcases op.isSign_or_isBinary_or_isPostfixOp with hsign | hbinary | hpost
    · exact .inl ⟨op, hop, by simpa [Operator.isSign] using hsign⟩
    · exact .inr (.inl ⟨op, hop, by simpa using hbinary⟩)
    · exact .inr (.inr ⟨op, hop, by simpa [Operator.isPostfixOp] using hpost⟩)
  · intro h
    rcases h with ⟨op, hop, -⟩ | ⟨op, hop, -⟩ | ⟨op, hop, -⟩
    all_goals exact ⟨op, hop⟩

/-! ## Roles of characters

A character acts in a role only if it has no fixed meaning. Behind an operand the role of an
operator that stands there outweighs the role of one between two operands. -/

/-- Whether a character acts as a sign in front of an operand. -/
def actsAsSign (table : OperatorTable) (c : Char) : Bool :=
  !Text.isReserved c && (table.sign? (String.singleton c)).isSome

/-- Whether a character acts as an operator behind its operand. -/
def actsAsPostfix (table : OperatorTable) (c : Char) : Bool :=
  !Text.isReserved c && (table.postfixOp? (String.singleton c)).isSome

/-- Whether a character acts as an operator between two operands. -/
def actsAsBinary (table : OperatorTable) (c : Char) : Bool :=
  !Text.isReserved c && (table.binary? (String.singleton c)).isSome && !table.actsAsPostfix c

/-- Whether a character acts as an operator in one role or another. -/
def acts (table : OperatorTable) (c : Char) : Bool :=
  table.actsAsSign c || table.actsAsBinary c || table.actsAsPostfix c

/-- Whether a character is passed over: a blank that is not an operator. -/
def skips (table : OperatorTable) (c : Char) : Bool :=
  Text.isBlank c && !table.isOperator (String.singleton c)

/-- A text without the characters that are passed over. -/
def visible (table : OperatorTable) (cs : List Char) : List Char :=
  cs.filter fun c => !table.skips c

variable {c : Char}

theorem actsAsSign_iff : table.actsAsSign c = true ↔
    Text.isReserved c = false ∧ (table.sign? (String.singleton c)).isSome = true := by
  simp [actsAsSign]

theorem actsAsPostfix_iff : table.actsAsPostfix c = true ↔
    Text.isReserved c = false ∧ (table.postfixOp? (String.singleton c)).isSome = true := by
  simp [actsAsPostfix]

/-- An operator acts between two operands only if the character has none behind its operand. -/
theorem actsAsBinary_iff : table.actsAsBinary c = true ↔
    Text.isReserved c = false ∧ (table.binary? (String.singleton c)).isSome = true
      ∧ (table.postfixOp? (String.singleton c)).isNone = true := by
  cases hr : Text.isReserved c <;> simp [actsAsBinary, actsAsPostfix, hr]

theorem acts_of_actsAsSign (h : table.actsAsSign c = true) : table.acts c = true := by
  simp only [acts, h, Bool.true_or]

theorem acts_of_actsAsBinary (h : table.actsAsBinary c = true) : table.acts c = true := by
  simp only [acts, h, Bool.or_true, Bool.true_or]

theorem acts_of_actsAsPostfix (h : table.actsAsPostfix c = true) : table.acts c = true := by
  simp only [acts, h, Bool.or_true]

/-- The operators are the characters without a fixed meaning that have one of the roles. -/
theorem acts_iff : table.acts c = true ↔
    Text.isReserved c = false ∧ table.isOperator (String.singleton c) = true := by
  rw [isOperator_iff]
  cases hr : Text.isReserved c with
  | true => simp [acts, actsAsSign, actsAsBinary, actsAsPostfix, hr]
  | false =>
    cases hpost : (table.postfixOp? (String.singleton c)).isSome <;>
      simp [acts, actsAsSign, actsAsBinary, actsAsPostfix, hr, hpost]

theorem isOperator_of_actsAsSign (h : table.actsAsSign c = true) :
    table.isOperator (String.singleton c) = true :=
  isOperator_iff.mpr (.inl (actsAsSign_iff.mp h).2)

theorem isOperator_of_actsAsBinary (h : table.actsAsBinary c = true) :
    table.isOperator (String.singleton c) = true :=
  isOperator_iff.mpr (.inr (.inl (actsAsBinary_iff.mp h).2.1))

theorem isOperator_of_actsAsPostfix (h : table.actsAsPostfix c = true) :
    table.isOperator (String.singleton c) = true :=
  isOperator_iff.mpr (.inr (.inr (actsAsPostfix_iff.mp h).2))

theorem skips_of_isReserved (h : Text.isReserved c = true) : table.skips c = false := by
  cases hb : Text.isBlank c with
  | false => simp only [skips, hb, Bool.false_and]
  | true => rw [Text.isReserved_of_isBlank hb] at h; cases h

/-- A blank that is registered as an operator is not passed over. -/
theorem skips_of_isOperator (h : table.isOperator (String.singleton c) = true) :
    table.skips c = false := by
  simp only [skips, h, Bool.not_true, Bool.and_false]

theorem isReserved_of_skips (h : table.skips c = true) : Text.isReserved c = false := by
  cases hr : Text.isReserved c with
  | false => rfl
  | true => rw [skips_of_isReserved hr] at h; cases h

@[simp] theorem visible_nil : table.visible [] = [] := rfl

theorem visible_append (xs ys : List Char) :
    table.visible (xs ++ ys) = table.visible xs ++ table.visible ys :=
  List.filter_append ..

theorem visible_cons_of_skips {cs : List Char} (h : table.skips c = true) :
    table.visible (c :: cs) = table.visible cs := by
  simp [visible, h]

theorem visible_cons_of_not_skips {cs : List Char} (h : table.skips c = false) :
    table.visible (c :: cs) = c :: table.visible cs := by
  simp [visible, h]

theorem visible_eq_nil_iff {cs : List Char} :
    table.visible cs = [] ↔ ∀ c ∈ cs, table.skips c = true := by
  simp [visible]

end OperatorTable

end ExprLex
