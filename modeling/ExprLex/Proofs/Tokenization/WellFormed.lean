import ExprLex.Proofs.Scanner.Stage

/-!
# Tokenizations Are Well-Formed

What the scanner accepts is a valid stream of tokens, and more: no operand follows another one at
once, since a multiplication is inserted between them. The validator looks at neighbouring tokens
and counts the brackets on its own, and the scanner looks at the lexeme in progress; the stages of
the tokens are what both have in common.
-/

namespace ExprLex

/-- **Well-formed tokenizations.** An expression is read as no tokens exactly if all of it is
passed over; any other accepted expression is read as a valid stream in which no token that ends
an operand is followed at once by one that starts an operand. -/
theorem wellFormed_of_tokenize {table : OperatorTable} {expression : String} {t : Tokenization}
    (h : tokenize table expression = .ok t) :
    (t.tokens = [] ↔ ∀ c ∈ expression.toList, table.skips c = true) ∧
      (t.tokens ≠ [] → validate t.tokens = .ok () ∧ Apart t.tokens) := by
  rw [← OperatorTable.visible_eq_nil_iff]
  rcases stage_of_tokenize h with ⟨hvisible, htokens⟩ | ⟨hvisible, hstage⟩
  · exact ⟨iff_of_true htokens hvisible, fun hne => absurd htokens hne⟩
  · have hne : t.tokens ≠ [] := by
      -- no operand has ended before the first token
      intro hnil
      rw [hnil] at hstage
      cases hstage
    exact ⟨iff_of_false hne hvisible, fun _ => (validate_and_apart_iff hne).mpr hstage⟩

/-- The factors of `2(3)!` are read with a multiplication between them. -/
theorem wellFormed_two_three_factorial :
    tokenize .standard "2(3)!" = .ok ⟨[.number "2", .operator .multiplication, .bracket .left,
        .number "3", .bracket .right, .operator .factorial], [1]⟩ ∧
      validate [.number "2", .operator .multiplication, .bracket .left, .number "3",
        .bracket .right, .operator .factorial] = .ok () ∧
      Apart [.number "2", .operator .multiplication, .bracket .left, .number "3",
        .bracket .right, .operator .factorial] := by
  have hread : tokenize .standard "2(3)!" = .ok ⟨[.number "2", .operator .multiplication,
      .bracket .left, .number "3", .bracket .right, .operator .factorial], [1]⟩ := by
    decide +kernel
  exact ⟨hread, (wellFormed_of_tokenize hread).2 (List.cons_ne_nil _ _)⟩

end ExprLex
