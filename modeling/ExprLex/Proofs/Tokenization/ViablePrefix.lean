import ExprLex.Proofs.Scanner.Notices
import ExprLex.Proofs.Scanner.Progress
import ExprLex.Proofs.Scanner.Stage

/-!
# Viable Prefixes

Errors come as early as possible and never too early. No state that the scanner reaches is a dead
end: a digit completes what is owed, and right brackets close what is open. So a text can be read
without an error exactly if an accepted expression begins with it, and the error of a text that
cannot be read is the error of every expression that begins with it.
-/

namespace ExprLex

namespace Scanner

variable (table : OperatorTable) {s : Scanner}

/-! ## Completing a state -/

/-- Behind an operand, all open brackets can be closed. -/
theorem exists_feed_rightBrackets {depth : Nat} (hs : s.pending.endsOperand = true)
    (hdepth : s.brackets.depth = depth) :
    ∃ s', feed table (List.replicate depth ')') s = .ok () s' ∧ s'.Complete := by
  induction depth generalizing s with
  | zero => exact ⟨s, rfl, Pending.mayEnd_of_endsOperand hs, Int.le_of_eq hdepth⟩
  | succ depth ih =>
    have hbegin : Begins table ')' s .rightBracket := .right rfl (by omega) (.inl hs)
    have hclosed : (s.begun table ')' .rightBracket).advance.brackets.depth = depth := by
      show (s.brackets.depth - 1 : Int) = depth
      omega
    have hended : (s.begun table ')' .rightBracket).advance.pending.endsOperand = true := by
      rw [pending_advance, pending_begun]
      rfl
    obtain ⟨s', hfeed, hcomplete⟩ := ih hended hclosed
    exact ⟨s', (feed_cons_of_begins hbegin).trans hfeed, hcomplete⟩

/-- Where no operand has ended, a digit makes one. -/
theorem exists_feed_zero (hs : s.pending.endsOperand = false) :
    ∃ s', feed table ['0'] s = .ok () s' ∧ s'.pending.endsOperand = true ∧
      s'.brackets.depth = s.brackets.depth := by
  have hzero : Text.isDigit '0' = true := by decide
  by_cases hpoint : s.pending = .lonePoint
  · -- the digit completes the number that is only a point so far
    have hext : Extends '0' s.pending .decimal := hpoint ▸ .fraction hzero
    exact ⟨_, feed_cons_of_move (.extended hext), rfl, rfl⟩
  · -- otherwise no number is in progress, and the digit begins one
    have hnumber : s.pending.isNumber = false := by
      cases hp : s.pending with
      | integer | decimal => rw [hp] at hs; cases hs
      | lonePoint => exact absurd hp hpoint
      | _ => rfl
    have hbegin : Begins table '0' s .integer := .digit hzero hnumber
    refine ⟨_, feed_cons_of_begins hbegin, ?_, ?_⟩
    · rw [pending_advance, pending_begun]
      rfl
    · rfl

/-- **No dead ends.** What has been read in any state that is reached can be completed. -/
theorem Staged.exists_completion {table : OperatorTable} (hs : s.Staged table) :
    ∃ rest s', feed table rest s = .ok () s' ∧ s'.Complete := by
  obtain ⟨depth, hdepth, -⟩ := hs.stage
  cases hended : s.pending.endsOperand with
  | true =>
    obtain ⟨s', hfeed, hcomplete⟩ := exists_feed_rightBrackets table hended hdepth
    exact ⟨_, s', hfeed, hcomplete⟩
  | false =>
    obtain ⟨read, hread, hreadEnded, hreadDepth⟩ := exists_feed_zero table hended
    obtain ⟨s', hfeed, hcomplete⟩ :=
      exists_feed_rightBrackets table hreadEnded (hreadDepth.trans hdepth)
    exact ⟨_, s', feed_append_eq_ok_iff.mpr ⟨read, hread, hfeed⟩, hcomplete⟩

end Scanner

/-! ## Texts and the expressions that begin with them -/

section Prefixes

variable {table : OperatorTable} {text rest : String} {e : SyntaxError} {s s' : Scanner}

/-- What can be read in a used scanner is the beginning of an expression. -/
theorem exists_tokenize_of_feed_reset (h : Scanner.feed table text.toList s.reset = .ok () s') :
    ∃ rest t, tokenize table (text ++ rest) = .ok t := by
  obtain ⟨read, hread, -⟩ := Scanner.feed_of_alike (s.alike_reset_opening text) h
  obtain ⟨rest, last, hlast, hcomplete⟩ :=
    (Scanner.staged_of_feed (Scanner.staged_opening text) hread).exists_completion
  -- the whole expression is read like the text and what completes it, but for a notice
  have hwhole : Scanner.feed table (text ++ String.ofList rest).toList (.opening text) =
      .ok () last := by
    rw [String.toList_append, String.toList_ofList]
    exact Scanner.feed_append_eq_ok_iff.mpr ⟨read, hread, hlast⟩
  obtain ⟨last', hlast', halike⟩ :=
    Scanner.feed_of_alike (Scanner.alike_opening text (text ++ String.ofList rest)) hwhole
  exact ⟨_, _, tokenize_eq_ok_iff_draft.mpr
    ⟨last', hlast', hcomplete.of_agree halike.agree, rfl⟩⟩

/-- The beginning of an expression can be read in any used scanner. -/
theorem exists_feed_reset_of_tokenize {t : Tokenization} (s : Scanner)
    (h : tokenize table (text ++ rest) = .ok t) :
    ∃ s', Scanner.feed table text.toList s.reset = .ok () s' := by
  obtain ⟨last, hlast, -⟩ := tokenize_eq_ok_iff_draft.mp h
  rw [String.toList_append] at hlast
  obtain ⟨read, hread, -⟩ := Scanner.feed_append_eq_ok_iff.mp hlast
  obtain ⟨s', hfeed, -⟩ :=
    Scanner.feed_of_alike (s.alike_reset_opening (text ++ rest)).symm hread
  exact ⟨s', hfeed⟩

/-- An error of the beginning is that of every continuation. -/
theorem tokenize_of_feed_reset (h : Scanner.feed table text.toList s.reset = .error e s') :
    tokenize table (text ++ rest) = .error e := by
  obtain ⟨failed, hfailed, -⟩ :=
    Scanner.feed_error_of_alike (s.alike_reset_opening (text ++ rest)) h
  refine tokenize_eq_error_iff.mpr (.inl ⟨failed, ?_⟩)
  rw [String.toList_append, Scanner.feed_append, hfailed]

end Prefixes

/-- **Viable prefixes.** In a scanner that was reset, the characters of a text are read without an
error exactly if an accepted expression begins with the text. If one of them fails, every expression
that begins with the text is refused with the same error. -/
theorem readable_iff_viable (table : OperatorTable) (text : String) (s : Scanner) :
    ((∃ s', Scanner.feed table text.toList s.reset = .ok () s') ↔
        ∃ rest t, tokenize table (text ++ rest) = .ok t) ∧
      ∀ e s', Scanner.feed table text.toList s.reset = .error e s' →
        ∀ rest, tokenize table (text ++ rest) = .error e := by
  refine ⟨⟨?_, ?_⟩, ?_⟩
  · intro h
    rcases h with ⟨s', hfeed⟩
    exact exists_tokenize_of_feed_reset hfeed
  · intro h
    rcases h with ⟨rest, t, ht⟩
    exact exists_feed_reset_of_tokenize s ht
  · intro e s' h rest
    exact tokenize_of_feed_reset h

/-- Nothing behind `2)` makes up for its bracket. -/
theorem refused_behind_two_right :
    (∃ s', Scanner.feed .standard "2)".toList Scanner.fresh.reset =
        .error (.unmatchedRight 1) s') ∧
      tokenize .standard ("2)" ++ "+(3)") = .error (.unmatchedRight 1) := by
  have hread : Scanner.feed .standard "2)".toList Scanner.fresh.reset =
      .error (.unmatchedRight 1)
        { Scanner.fresh with pending := .integer, symbol := "2", position := 1 } := by
    rfl
  exact ⟨⟨_, hread⟩, (readable_iff_viable .standard "2)" .fresh).2 _ _ hread _⟩

end ExprLex
