import ExprLex.Proofs.Operator.Role

/-!
# Registrations Come Last

A registration puts one operator behind all others of its character. So what a table has found for a
character in a role it finds after any registration: an operator of a role that is filled changes
nothing.
-/

namespace ExprLex

namespace Operator

/-- The place of an operator beside its operands. -/
inductive Role where
  /-- In front of the only operand. -/
  | sign
  /-- Between two operands. -/
  | binary
  /-- Behind the only operand. -/
  | postfixOp
  deriving DecidableEq

/-- The role of an operator. -/
def role (op : Operator) : Role :=
  match op.arity, op.associativity with
  | .binary, _ => .binary
  | .unary, .right => .sign
  | .unary, .left => .postfixOp

end Operator

namespace OperatorTable

variable {table extended : OperatorTable} {symbol other : String} {op found : Operator}
  {role : Operator.Role}

/-! ## Look-ups by role -/

/-- The operator that a symbol denotes in a role. -/
def inRole? (table : OperatorTable) (role : Operator.Role) (symbol : String) : Option Operator :=
  match role with
  | .sign => table.sign? symbol
  | .binary => table.binary? symbol
  | .postfixOp => table.postfixOp? symbol

/-- A role is told by arity and side, so that each look-up by tests is one by role. -/
theorem inRole?_eq_find? (table : OperatorTable) (role : Operator.Role) (symbol : String) :
    table.inRole? role symbol = (table.variants symbol).find? fun op => op.role = role := by
  have htest (tests : List (Option OperatorTest))
      (h : ∀ op, (tests.all fun test => test.all (· op)) = decide (op.role = role)) :
      table.lookup symbol tests = (table.variants symbol).find? fun op => op.role = role :=
    congrArg (fun test => (table.variants symbol).find? test) (funext h)
  cases role with
  | sign => exact htest _ fun op => by cases op <;> rfl
  | binary => exact htest _ fun op => by cases op <;> rfl
  | postfixOp => exact htest _ fun op => by cases op <;> rfl

/-- Only single characters have operators. -/
theorem exists_char_of_inRole? (h : table.inRole? role symbol = some op) :
    ∃ c, symbol = String.singleton c := by
  rw [inRole?_eq_find?] at h
  have hmem := List.mem_of_find?_eq_some h
  unfold variants at hmem
  split at hmem
  · rename_i c hsymbol
    exact ⟨c, eq_singleton hsymbol⟩
  · cases hmem

/-! ## One more operator -/

/-- A registration succeeds exactly for a single character and in a table that is not read-only. -/
theorem register_eq_ok_iff :
    table.register symbol op = .ok extended ↔
      table.readOnly = false ∧ ∃ c, symbol = String.singleton c ∧
        extended = { table with entries := addVariant c op table.entries } := by
  unfold register
  cases table.readOnly with
  | true => simp
  | false =>
    constructor
    · intro h
      rw [if_neg Bool.false_ne_true] at h
      split at h
      · rename_i c hsymbol
        cases h
        exact ⟨rfl, c, eq_singleton hsymbol, rfl⟩
      · cases h
    · rintro ⟨-, c, rfl, rfl⟩
      simp

/-- What is not taken is refused: by a read-only table, or for not being a single character. -/
theorem register_eq_error (h : ∀ extended, table.register symbol op ≠ .ok extended) :
    table.register symbol op =
      .error (if table.readOnly then .readOnly else .notSingle symbol) := by
  cases hreadOnly : table.readOnly with
  | true => simp only [register, hreadOnly, if_true]
  | false =>
    rw [register, hreadOnly, if_neg Bool.false_ne_true, if_neg Bool.false_ne_true]
    split
    · rename_i c hsymbol
      exact absurd (register_eq_ok_iff.mpr ⟨hreadOnly, c, eq_singleton hsymbol, rfl⟩) (h _)
    · rfl

/-- A list of registrations succeeds if the first one does and then the others. -/
theorem registerAll_cons_eq_ok_iff {rest : List (String × Operator)} :
    table.registerAll ((symbol, op) :: rest) = .ok extended ↔
      ∃ next, table.register symbol op = .ok next ∧ next.registerAll rest = .ok extended := by
  rw [registerAll]
  cases table.register symbol op with
  | ok next => simp
  | error e => simp

theorem variants_singleton (table : OperatorTable) (c : Char) :
    table.variants (String.singleton c) = table.variantsOf c := by
  simp [variants]

/-- The new operator comes behind the others of its character, and no other character has it. -/
theorem getD_lookup_addVariant (c d : Char) (op : Operator)
    (entries : List (Char × List Operator)) :
    ((addVariant c op entries).lookup d).getD [] =
      (entries.lookup d).getD [] ++ if d = c then [op] else [] := by
  induction entries with
  | nil =>
    cases hdc : d == c with
    | true => simp [addVariant, eq_of_beq hdc]
    | false => simp [addVariant, List.lookup_cons, hdc, ne_of_beq_false hdc]
  | cons entry rest ih =>
    obtain ⟨key, ops⟩ := entry
    rw [addVariant]
    by_cases hkey : key = c
    · rw [if_pos hkey]
      -- the operator goes to this entry, and the others stay
      by_cases hdc : d = c
      · simp [hkey, hdc]
      · have hne : (d == key) = false := beq_false_of_ne (hkey ▸ hdc)
        simp [List.lookup_cons, hne, hdc]
    · rw [if_neg hkey]
      cases hd : d == key with
      | true =>
        -- the look-up ends at this entry, which is not the one of the registration
        have hdc : d ≠ c := eq_of_beq hd ▸ hkey
        simp [List.lookup_cons, hd, hdc]
      | false => simpa [List.lookup_cons, hd] using ih

/-- The new operator comes behind the others of its symbol, and no other symbol has it. -/
theorem variants_register (h : table.register symbol op = .ok extended) (other : String) :
    extended.variants other = table.variants other ++ if other = symbol then [op] else [] := by
  obtain ⟨-, c, rfl, rfl⟩ := register_eq_ok_iff.mp h
  unfold variants
  split
  · rename_i d hother
    obtain rfl := eq_singleton hother
    simp only [String.singleton_inj, variantsOf, getD_lookup_addVariant]
  · rename_i hother
    -- a symbol that is not a single character is not the one of the registration
    have hne : other ≠ String.singleton c := by
      rintro rfl
      exact hother c (String.toList_singleton c)
    simp [hne]

/-- A registration fills a role only if it was empty. -/
theorem inRole?_register (h : table.register symbol op = .ok extended) :
    extended.inRole? role other =
      (table.inRole? role other).or
        (if other = symbol ∧ op.role = role then some op else none) := by
  rw [inRole?_eq_find?, inRole?_eq_find?, variants_register h, List.find?_append]
  by_cases hsymbol : other = symbol
  · by_cases hrole : op.role = role <;> simp [hsymbol, hrole]
  · simp [hsymbol]

/-- What was found before a registration is found after it. -/
theorem inRole?_of_register (h : table.register symbol op = .ok extended)
    (hfound : table.inRole? role other = some found) :
    extended.inRole? role other = some found := by
  rw [inRole?_register h, hfound, Option.some_or]

end OperatorTable

end ExprLex
