import ExprLex.Proofs.Grammar.Completeness
import ExprLex.Proofs.Grammar.Soundness
import ExprLex.Proofs.Scanner.Agreement

/-!
# The Language That Is Accepted

The scanner knows the kind of one lexeme and the number of open brackets, and that is enough to
recognise the grammar of expressions exactly.
-/

namespace ExprLex

/-- **Completeness.** Where the visible text is derivable, the expression is accepted. -/
theorem exists_tokenize_of_derives {table : OperatorTable} {expression : String}
    (h : Derives table .expression (table.visible expression.toList)) :
    ∃ t, tokenize table expression = .ok t := by
  have hdepth : 0 ≤ (Scanner.opening expression).brackets.depth := Int.le_refl 0
  have hready : Scanner.Ready .expression (table.visible expression.toList)
      (.opening expression) := rfl
  obtain ⟨s, hfeed, hread⟩ := Scanner.exists_feed_of_derives h hdepth hready
  exact ⟨_, tokenize_eq_ok_iff_visible.mpr ⟨s, hfeed, hread.complete rfl, rfl⟩⟩

/-- Where nothing is visible, there is nothing that could be refused. -/
theorem exists_tokenize_of_visible_eq_nil {table : OperatorTable} {expression : String}
    (h : table.visible expression.toList = []) : ∃ t, tokenize table expression = .ok t := by
  have hfeed : Scanner.feed table (table.visible expression.toList) (.opening expression) =
      .ok () (.opening expression) := by
    rw [h]
    rfl
  exact ⟨_, tokenize_eq_ok_iff_visible.mpr ⟨_, hfeed, ⟨rfl, Int.le_refl 0⟩, rfl⟩⟩

/-- **The accepted language.** With any table, an expression is accepted exactly if nothing of it
is visible or its visible text is derived by the grammar, and otherwise it is refused with an
error. -/
theorem tokenize_language (table : OperatorTable) (expression : String) :
    ((∃ t, tokenize table expression = .ok t) ↔
      table.visible expression.toList = [] ∨
        Derives table .expression (table.visible expression.toList)) ∧
      ((∃ e, tokenize table expression = .error e) ↔
        ¬(table.visible expression.toList = [] ∨
          Derives table .expression (table.visible expression.toList))) := by
  have haccepted : (∃ t, tokenize table expression = .ok t) ↔
      table.visible expression.toList = [] ∨
        Derives table .expression (table.visible expression.toList) := by
    constructor
    · intro h
      rcases h with ⟨t, ht⟩
      exact derives_of_tokenize ht
    · intro h
      rcases h with h | h
      · exact exists_tokenize_of_visible_eq_nil h
      · exact exists_tokenize_of_derives h
  refine ⟨haccepted, ?_⟩
  rw [← haccepted]
  -- an outcome is one or the other
  cases tokenize table expression with
  | ok t => simp
  | error e => simp

end ExprLex
