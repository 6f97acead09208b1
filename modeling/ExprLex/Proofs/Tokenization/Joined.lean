import ExprLex.Proofs.Scanner.Progress
import ExprLex.Proofs.Tokenization.Operand

/-!
# Expressions Joined by an Operator

Behind an accepted expression, an operator that stands between two operands awaits the second one.
The text behind it is then read as it would be from the start, whether it is accepted or refused:
the indices of its inserted tokens move by the tokens before it, and the positions of its errors by
the characters before it.
-/

namespace ExprLex

variable {table : OperatorTable} {a b : String} {t : Tokenization} {c : Char} {op : Operator}

namespace Scanner

variable {s : Scanner}

/-- Characters that are passed over change nothing but the position. -/
theorem exists_feed_of_visible_eq_nil {cs : List Char} (h : table.visible cs = [])
    (s : Scanner) : ∃ s', feed table cs s = .ok () s' ∧ s.Agree s' := by
  apply feed_of_feed_visible (.refl s)
  rw [h]
  rfl

/-- The state behind an operand with the given tokens and an operator that awaits another one. -/
structure Joins (table : OperatorTable) (t : Tokenization) (c : Char) (op : Operator)
    (s : Scanner) : Prop where
  pending : s.pending = .binary
  symbol : s.symbol = String.singleton c
  drafted : s.drafted table = t ++ .written [.operator op]
  depth : s.brackets.depth = 0

theorem Joins.awaitsOperand (h : s.Joins table t c op) : s.pending.awaitsOperand = true := by
  rw [h.pending]
  rfl

/-- An operator behind an accepted text joins it to what comes next. -/
theorem TokensRead.joins (h : fresh.TokensRead table t s)
    (hop : table.binary? (String.singleton c) = some op) :
    (s.begun table c .binary).advance.Joins table t c op where
  pending := pending_begun
  symbol := symbol_begun
  drafted := by
    have htoken : draftToken? table (String.singleton c) .binary = some (.operator op) := by
      simp [draftToken?, pendingToken?, hop]
    rw [drafted_advance, drafted_begun (Pending.ne_lonePoint_of_endsOperand h.ended), h.drafted,
      htoken]
    simp [drafted_fresh, Pending.startsFactor]
  depth := h.depth

end Scanner

/-- Behind an accepted expression, an operator between two operands can be read. -/
theorem exists_feed_joins (ha : tokenize table a = .ok t) (hne : t.tokens ≠ [])
    (hc : table.actsAsBinary c = true) (hop : table.binary? (String.singleton c) = some op) :
    ∃ s, Scanner.feed table (a ++ String.singleton c).toList .fresh = .ok () s ∧
      s.Joins table t c op ∧ s.position = a.length + 1 := by
  obtain ⟨read, hfeed, hread⟩ :=
    exists_feed_of_tokenize (s := .fresh) ha hne rfl (Int.le_refl 0)
  have hbegin : Scanner.Begins table c read .binary := .binary hc hread.ended
  have hfeed' : Scanner.feed table (a ++ String.singleton c).toList .fresh =
      .ok () (read.begun table c .binary).advance := by
    rw [String.toList_append, String.toList_singleton]
    exact Scanner.feed_append_eq_ok_iff.mpr ⟨read, hfeed, Scanner.feed_cons_of_begins hbegin⟩
  refine ⟨_, hfeed', hread.joins hop, ?_⟩
  rw [Scanner.position_of_feed hfeed', String.length_toList]
  simp [Scanner.fresh]

/-- **Joining is compositional.** Let an accepted expression with tokens be followed by a character
that denotes an operator between two operands and none behind an operand. If the text behind it is
accepted with tokens, the tokens of all come one behind the other, and the indices of the inserted
ones move. If that text is refused, the whole is refused for the same reason, told that many
characters further on. If nothing of that text is visible, the operator has no operand. -/
theorem tokenize_joined (ha : tokenize table a = .ok t) (hne : t.tokens ≠ [])
    (hc : Text.isReserved c = false) (hop : table.binary? (String.singleton c) = some op)
    (hpost : table.postfixOp? (String.singleton c) = none) (b : String) :
    (∀ u, tokenize table b = .ok u → u.tokens ≠ [] →
      tokenize table (a ++ String.singleton c ++ b) = .ok
        ⟨t.tokens ++ [.operator op] ++ u.tokens,
          t.implicit ++ u.implicit.map (· + (t.tokens.length + 1))⟩) ∧
    (∀ e, tokenize table b = .error e →
      tokenize table (a ++ String.singleton c ++ b) =
        .error (.of e.kind e.token (e.position + a.length + 1))) ∧
    (table.visible b.toList = [] →
      tokenize table (a ++ String.singleton c ++ b) =
        .error (.missingRight (String.singleton c) (a.length + b.length))) := by
  have hbinary : table.actsAsBinary c = true := by
    simp [OperatorTable.actsAsBinary_iff, hc, hop, hpost]
  -- reading up to the operator, everything before it is drafted and an operand is awaited
  obtain ⟨s, hfeed, hs, hposition⟩ := exists_feed_joins ha hne hbinary hop
  refine ⟨?_, ?_, ?_⟩
  · intro u hu hune
    rw [tokenize_append hfeed hs.awaitsOperand hs.depth hu hune, hs.drafted]
    congr 1
    apply Tokenization.eq_of_fields
    · simp
    · simp [Nat.add_comm]
  · intro e he
    rw [tokenize_append_error hfeed hs.awaitsOperand hs.depth he, SyntaxError.movedBy, hposition,
      ← Int.add_assoc]
  · intro hb
    -- the blanks leave the operator in progress, which is owed its operand at the end
    obtain ⟨s', hblank, hagree⟩ := Scanner.exists_feed_of_visible_eq_nil hb s
    have howes : s'.Owes (.missingRight s'.symbol (s'.position - 1)) :=
      .operand (.inr (hagree.pending.symm.trans hs.pending))
    have hlast : s'.position - 1 = a.length + b.length := by
      rw [Scanner.position_of_feed hblank, hposition, String.length_toList]
      omega
    rw [← hagree.symbol, hs.symbol, hlast] at howes
    refine tokenize_eq_error_iff_fresh.mpr (.inr ⟨s', ?_, howes⟩)
    rw [String.toList_append]
    exact Scanner.feed_append_eq_ok_iff.mpr ⟨s, hfeed, hblank⟩

/-- Behind `(2)3` and a minus sign between operands there may stand a product with a sign, a bracket
too many or nothing. -/
theorem tokenize_joined_difference :
    tokenize .standard ("(2)3" ++ String.singleton '-' ++ "-4 (5)") = .ok
        ⟨[.bracket .left, .number "2", .bracket .right, .operator .multiplication, .number "3",
          .operator .subtraction, .operator .minus, .number "4", .operator .multiplication,
          .bracket .left, .number "5", .bracket .right], [3, 8]⟩ ∧
      tokenize .standard ("(2)3" ++ String.singleton '-' ++ "4)") = .error (.unmatchedRight 6) ∧
      tokenize .standard ("(2)3" ++ String.singleton '-' ++ " ") =
        .error (.missingRight "-" 5) := by
  have ha : tokenize .standard "(2)3" = .ok ⟨[.bracket .left, .number "2", .bracket .right,
      .operator .multiplication, .number "3"], [3]⟩ := by
    decide +kernel
  have hb : tokenize .standard "-4 (5)" = .ok ⟨[.operator .minus, .number "4",
      .operator .multiplication, .bracket .left, .number "5", .bracket .right], [2]⟩ := by
    decide +kernel
  have hrefused : tokenize .standard "4)" = .error (.unmatchedRight 1) := by decide +kernel
  have hop : OperatorTable.standard.binary? (String.singleton '-') = some .subtraction := by
    decide +kernel
  have hpost : OperatorTable.standard.postfixOp? (String.singleton '-') = none := by
    decide +kernel
  have hjoined := tokenize_joined ha (by simp) (by decide) hop hpost
  exact ⟨(hjoined _).1 _ hb (by simp), (hjoined _).2.1 _ hrefused,
    (hjoined _).2.2 (by decide +kernel)⟩

end ExprLex
