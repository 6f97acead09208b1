import ExprLex.Proofs.Operator.Role
import ExprLex.Token

/-!
# The Standard Operators

The standard table knows every operator under its own symbol and in its own role, and knows
nothing else. No operator and no other token is written with blanks, so that with the standard
table all blanks are passed over.
-/

namespace ExprLex.OperatorTable

variable {symbol : String} {op : Operator} {c : Char}

private theorem symbol_of_mem_entries :
    ∀ entry ∈ standard.entries, ∀ op ∈ entry.2, op.symbol = entry.1 := by
  decide

/-- An operator is registered under its own symbol. -/
theorem symbol_of_mem_variants_standard (h : op ∈ standard.variants symbol) :
    String.singleton op.symbol = symbol := by
  unfold variants at h
  split at h
  · rename_i c hsymbol
    unfold variantsOf at h
    cases hlookup : standard.entries.lookup c with
    | none => simp [hlookup] at h
    | some ops =>
      rw [hlookup, Option.getD_some] at h
      obtain ⟨before, after, hentries, -⟩ := List.lookup_eq_some_iff.mp hlookup
      have hentry : (c, ops) ∈ standard.entries := by simp [hentries]
      rw [symbol_of_mem_entries _ hentry op h, eq_singleton hsymbol]
  · cases h

/-- What the standard table finds is written with the symbol it is found under. -/
theorem symbol_of_lookup_standard {tests : List (Option OperatorTest)}
    (h : standard.lookup symbol tests = some op) : String.singleton op.symbol = symbol :=
  symbol_of_mem_variants_standard (List.mem_of_find?_eq_some h)

/-! ## Every operator in its role -/

theorem sign?_standard (h : op.isSign = true) :
    standard.sign? (String.singleton op.symbol) = some op := by
  cases op <;> first | rfl | cases h

theorem binary?_standard (h : op.isBinary = true) :
    standard.binary? (String.singleton op.symbol) = some op := by
  cases op <;> first | rfl | cases h

theorem postfixOp?_standard (h : op.isPostfixOp = true) :
    standard.postfixOp? (String.singleton op.symbol) = some op := by
  cases op <;> first | rfl | cases h

/-- No standard operator stands both between operands and behind one. -/
theorem postfixOp?_standard_of_isBinary (h : op.isBinary = true) :
    standard.postfixOp? (String.singleton op.symbol) = none := by
  cases op <;> first | rfl | cases h

/-! ## The characters of the operators -/

/-- The characters of the standard operators. -/
def standardCharacters : List Char :=
  ['+', '-', '*', '/', '^', '!']

theorem mem_standardCharacters_iff : c ∈ standardCharacters ↔ ∃ op : Operator, op.symbol = c := by
  constructor
  · intro h
    simp only [standardCharacters, List.mem_cons, List.not_mem_nil, or_false] at h
    rcases h with rfl | rfl | rfl | rfl | rfl | rfl
    · exact ⟨.addition, rfl⟩
    · exact ⟨.subtraction, rfl⟩
    · exact ⟨.multiplication, rfl⟩
    · exact ⟨.division, rfl⟩
    · exact ⟨.power, rfl⟩
    · exact ⟨.factorial, rfl⟩
  · rintro ⟨op, rfl⟩
    cases op <;> decide

theorem isReserved_symbol (op : Operator) : Text.isReserved op.symbol = false := by
  cases op <;> decide

theorem isReserved_of_mem_standardCharacters (h : c ∈ standardCharacters) :
    Text.isReserved c = false := by
  obtain ⟨op, rfl⟩ := mem_standardCharacters_iff.mp h
  exact isReserved_symbol op

/-- The characters that act as operators are the six usual ones. -/
theorem acts_standard_iff : standard.acts c = true ↔ c ∈ standardCharacters := by
  rw [acts_iff, mem_standardCharacters_iff, isOperator_iff_exists_mem]
  constructor
  · rintro ⟨-, op, hop⟩
    exact ⟨op, String.singleton_inj.mp (symbol_of_mem_variants_standard hop)⟩
  · rintro ⟨op, rfl⟩
    refine ⟨isReserved_symbol op, op, ?_⟩
    cases op <;> decide

/-- Only the factorial stands behind its operand. -/
theorem eq_of_actsAsPostfix_standard (h : standard.actsAsPostfix c = true) : c = '!' := by
  obtain ⟨op, hop⟩ := Option.isSome_iff_exists.mp (actsAsPostfix_iff.mp h).2
  obtain rfl : op.symbol = c := String.singleton_inj.mp (symbol_of_lookup_standard hop)
  have hpost := isPostfixOp_of_postfixOp? hop
  cases op <;> first | rfl | cases hpost

/-- All operators but the factorial stand between two operands. -/
theorem actsAsBinary_standard_iff :
    standard.actsAsBinary c = true ↔ c ∈ standardCharacters ∧ c ≠ '!' := by
  constructor
  · intro h
    refine ⟨acts_standard_iff.mp (acts_of_actsAsBinary h), ?_⟩
    rintro rfl
    revert h
    decide
  · rintro ⟨hmem, hne⟩
    obtain ⟨op, rfl⟩ := mem_standardCharacters_iff.mp hmem
    cases op with
    | factorial => exact absurd rfl hne
    | _ => rfl

/-- The signs stand between two operands as well. -/
theorem actsAsBinary_standard_of_actsAsSign (h : standard.actsAsSign c = true) :
    standard.actsAsBinary c = true := by
  refine actsAsBinary_standard_iff.mpr ⟨acts_standard_iff.mp (acts_of_actsAsSign h), ?_⟩
  rintro rfl
  revert h
  decide

/-! ## Blanks -/

theorem isBlank_symbol (op : Operator) : Text.isBlank op.symbol = false := by
  cases op <;> decide

/-- With the standard table, all blanks are passed over and nothing else. -/
theorem skips_standard (c : Char) : standard.skips c = Text.isBlank c := by
  cases hblank : Text.isBlank c with
  | false => simp only [skips, hblank, Bool.false_and]
  | true =>
    have hoperator : ¬standard.isOperator (String.singleton c) = true := by
      intro hc
      obtain ⟨op, hop⟩ := isOperator_iff_exists_mem.mp hc
      obtain rfl : op.symbol = c := String.singleton_inj.mp (symbol_of_mem_variants_standard hop)
      rw [isBlank_symbol op] at hblank
      cases hblank
    simp [skips, hblank, hoperator]

/-- With the standard table, what is visible are the characters that are no blanks. -/
theorem visible_standard (cs : List Char) :
    standard.visible cs = cs.filter fun c => !Text.isBlank c := by
  simp only [visible, skips_standard]

end ExprLex.OperatorTable
