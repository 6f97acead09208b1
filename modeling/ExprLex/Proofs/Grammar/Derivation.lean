import ExprLex.Proofs.Operator.Role
import ExprLex.Proofs.Text.Numeral

/-!
# The Grammar of Expressions

The visible text of an expression is derived from the grammar

    expression ::= item (binary item | primary postfix*)*
    item       ::= sign* primary postfix*
    primary    ::= number | "(" expression ")"
    number     ::= digit+ | digit+ "." digit* | "." digit+

where `sign`, `binary` and `postfix` are the characters that act in these roles. A primary may
stand right behind an operand, but a number only behind a bracket or a postfix operator.
-/

namespace ExprLex

/-- The phrases of the grammar, apart from numbers. -/
inductive Phrase where
  | primary
  | item
  | expression
  deriving DecidableEq

/-- A text is a phrase of the grammar. -/
inductive Derives (table : OperatorTable) : Phrase → List Char → Prop where
  /-- The rule `primary ::= number`. -/
  | number {cs : List Char} :
      Text.IsInteger cs ∨ Text.IsDecimal cs → Derives table .primary cs
  /-- The rule `primary ::= "(" expression ")"`. -/
  | group {cs : List Char} :
      Derives table .expression cs → Derives table .primary ('(' :: cs ++ [')'])
  /-- The rule `item ::= sign* primary postfix*`. -/
  | item {signs cs posts : List Char} :
      (∀ c ∈ signs, table.actsAsSign c = true) → Derives table .primary cs →
      (∀ c ∈ posts, table.actsAsPostfix c = true) → Derives table .item (signs ++ cs ++ posts)
  /-- The rule `expression ::= item`. -/
  | single {cs : List Char} : Derives table .item cs → Derives table .expression cs
  /-- The rule `expression ::= expression binary item`. -/
  | binary {xs ys : List Char} {c : Char} :
      Derives table .expression xs → table.actsAsBinary c = true → Derives table .item ys →
      Derives table .expression (xs ++ c :: ys)
  /-- The rule `expression ::= expression primary postfix*`, where a number is a primary only behind
  a right bracket or a postfix operator. -/
  | juxtaposed {xs ys posts : List Char} :
      Derives table .expression xs → Derives table .primary ys →
      (∀ c ∈ posts, table.actsAsPostfix c = true) →
      (Text.IsInteger ys ∨ Text.IsDecimal ys →
        ∃ c ∈ xs.getLast?, c = ')' ∨ table.actsAsPostfix c = true) →
      Derives table .expression (xs ++ ys ++ posts)

private theorem not_number_group {cs : List Char} :
    ¬(Text.IsInteger ('(' :: cs ++ [')']) ∨ Text.IsDecimal ('(' :: cs ++ [')'])) := by
  intro h
  have hnumeric := (Text.isNumeral_iff.mpr h).1 '(' List.mem_cons_self
  revert hnumeric
  decide

/-! ## Unfinished expressions

What has been read of an expression is known by what may follow it. -/

section Unfinished

variable {table : OperatorTable} {text cs : List Char} {c : Char}

/-- An operand is awaited: with signs in front and postfix operators behind, a primary makes the
text an expression. -/
def Awaits (table : OperatorTable) (text : List Char) : Prop :=
  ∀ ⦃signs cs posts : List Char⦄, (∀ c ∈ signs, table.actsAsSign c = true) →
    Derives table .primary cs → (∀ c ∈ posts, table.actsAsPostfix c = true) →
    Derives table .expression (text ++ signs ++ cs ++ posts)

/-- An operand has ended: the text is an expression, with any postfix operators behind it. -/
def Ended (table : OperatorTable) (text : List Char) : Prop :=
  ∀ ⦃posts : List Char⦄, (∀ c ∈ posts, table.actsAsPostfix c = true) →
    Derives table .expression (text ++ posts)

/-- A number may come next and is then an operand. -/
def TakesNumber (table : OperatorTable) (text : List Char) : Prop :=
  ∀ ⦃cs : List Char⦄, Text.IsInteger cs ∨ Text.IsDecimal cs → Ended table (text ++ cs)

/-- A group may come next and is then an operand. -/
def TakesGroup (table : OperatorTable) (text : List Char) : Prop :=
  ∀ ⦃cs : List Char⦄, Derives table .expression cs → Ended table (text ++ ('(' :: cs ++ [')']))

theorem awaits_nil : Awaits table [] := by
  intro signs cs posts hsigns hcs hposts
  exact .single (.item hsigns hcs hposts)

theorem Awaits.sign (h : Awaits table text) (hc : table.actsAsSign c = true) :
    Awaits table (text ++ [c]) := by
  intro signs cs posts hsigns hcs hposts
  have hall : ∀ d ∈ c :: signs, table.actsAsSign d = true := by
    intro d hd
    rcases List.mem_cons.mp hd with rfl | hd
    · exact hc
    · exact hsigns d hd
  simpa using h hall hcs hposts

/-- A primary ends an operand where one is awaited. -/
theorem Awaits.primary (h : Awaits table text) (hcs : Derives table .primary cs) :
    Ended table (text ++ cs) := by
  intro posts hposts
  have hsigns : ∀ c ∈ ([] : List Char), table.actsAsSign c = true := by simp
  simpa using h hsigns hcs hposts

theorem Ended.expression (h : Ended table text) : Derives table .expression text := by
  have hposts : ∀ c ∈ ([] : List Char), table.actsAsPostfix c = true := by simp
  simpa using h hposts

/-- An operand is awaited behind an operator between two operands. -/
theorem Ended.binary (h : Ended table text) (hc : table.actsAsBinary c = true) :
    Awaits table (text ++ [c]) := by
  intro signs cs posts hsigns hcs hposts
  simpa using Derives.binary h.expression hc (.item hsigns hcs hposts)

/-- An operator behind its operand ends the operand again. -/
theorem Ended.postfixOp (h : Ended table text) (hc : table.actsAsPostfix c = true) :
    Ended table (text ++ [c]) := by
  intro posts hposts
  have hall : ∀ d ∈ c :: posts, table.actsAsPostfix d = true := by
    intro d hd
    rcases List.mem_cons.mp hd with rfl | hd
    · exact hc
    · exact hposts d hd
  simpa using h hall

theorem Awaits.takesNumber (h : Awaits table text) : TakesNumber table text :=
  fun _ hcs => h.primary (.number hcs)

theorem Awaits.takesGroup (h : Awaits table text) : TakesGroup table text :=
  fun _ hcs => h.primary (.group hcs)

/-- A number can stand behind an operand if it is not one that ends with a number. -/
theorem Ended.takesNumber (h : Ended table text)
    (hlast : ∃ c ∈ text.getLast?, c = ')' ∨ table.actsAsPostfix c = true) :
    TakesNumber table text := by
  intro cs hcs posts hposts
  exact .juxtaposed h.expression (.number hcs) hposts fun _ => hlast

/-- A group can stand behind any operand. -/
theorem Ended.takesGroup (h : Ended table text) : TakesGroup table text := by
  intro cs hcs posts hposts
  -- the condition on numbers does not concern a group
  exact .juxtaposed h.expression (.group hcs) hposts fun hnumber =>
    absurd hnumber not_number_group

end Unfinished

end ExprLex
