import ExprLex.Proofs.Scanner.Continuation
import ExprLex.Proofs.Scanner.Stage

/-!
# Accepted Expressions Are Operands

An expression that is accepted with tokens can stand wherever an operand is awaited. It is read to
the same tokens there, and leaves the brackets around it as they were.
-/

namespace ExprLex

namespace Scanner

variable {table : OperatorTable} {s s' : Scanner} {t : Tokenization}

/-- The state behind an operand that has the given tokens. -/
structure TokensRead (table : OperatorTable) (t : Tokenization) (s s' : Scanner) : Prop where
  drafted : s'.drafted table = s.drafted table ++ t
  ended : s'.pending.endsOperand = true
  depth : s'.brackets.depth = s.brackets.depth

theorem staged_fresh : fresh.Staged table where
  spells := .empty
  idle _ := rfl
  stage := ⟨0, rfl, rfl⟩

/-- A complete state with tokens has an operand last and nothing open. -/
theorem tokensRead_of_complete (hs : s.Staged table) (hcomplete : s.Complete)
    (hne : (s.drafted table).tokens ≠ []) : fresh.TokensRead table (s.drafted table) s where
  drafted := by rw [drafted_fresh, Tokenization.empty_append]
  ended := by
    refine hs.endsOperand_of_complete hcomplete ?_
    intro hempty
    apply hne
    show s.draft table = []
    rw [draft, hs.idle hempty, hempty]
    rfl
  depth := by
    obtain ⟨depth, hdepth, -⟩ := hs.stage
    have hclosed := hcomplete.depth_le
    show s.brackets.depth = 0
    omega

end Scanner

section Behind

variable {table : OperatorTable} {a b : String} {t : Tokenization} {s : Scanner} {e : SyntaxError}

/-- **Accepted expressions are operands.** -/
theorem exists_feed_of_tokenize (h : tokenize table a = .ok t) (hne : t.tokens ≠ [])
    (hs : s.pending.awaitsOperand = true) (hdepth : 0 ≤ s.brackets.depth) :
    ∃ s', Scanner.feed table a.toList s = .ok () s' ∧ s.TokensRead table t s' := by
  obtain ⟨read, hfeed, hcomplete, rfl⟩ := tokenize_eq_ok_iff_fresh.mp h
  rw [← Scanner.drafted_eq_mk] at hne ⊢
  have hread := Scanner.tokensRead_of_complete
    (Scanner.staged_of_feed Scanner.staged_fresh hfeed) hcomplete hne
  obtain ⟨s', hfeed', hs'⟩ :=
    Scanner.feed_of_continues hdepth (Scanner.continues_fresh table hs) hfeed
  refine ⟨s', hfeed', hs'.drafted, ?_, ?_⟩
  · rw [hs'.lexeme.endsOperand, hread.ended]
  · rw [hs'.depth, hread.depth]
    exact Int.zero_add _

/-- A state behind an operand with nothing open is the end of an accepted expression. -/
theorem tokenize_of_ended (hread : Scanner.feed table a.toList .fresh = .ok () s)
    (hended : s.pending.endsOperand = true) (hdepth : s.brackets.depth = 0) :
    tokenize table a = .ok (s.drafted table) := by
  have hcomplete : s.Complete :=
    ⟨Pending.mayEnd_of_endsOperand hended, Int.le_of_eq hdepth⟩
  exact tokenize_eq_ok_iff_fresh.mpr ⟨s, hread, hcomplete, Scanner.drafted_eq_mk table s⟩

/-- An accepted expression behind a text that awaits an operand, with nothing open. -/
theorem tokenize_append (hread : Scanner.feed table a.toList .fresh = .ok () s)
    (hs : s.pending.awaitsOperand = true) (hdepth : s.brackets.depth = 0)
    (hb : tokenize table b = .ok t) (hne : t.tokens ≠ []) :
    tokenize table (a ++ b) = .ok (s.drafted table ++ t) := by
  obtain ⟨s', hfeed, hs'⟩ := exists_feed_of_tokenize hb hne hs (Int.le_of_eq hdepth.symm)
  rw [← hs'.drafted]
  refine tokenize_of_ended ?_ hs'.ended (hs'.depth.trans hdepth)
  rw [String.toList_append]
  exact Scanner.feed_append_eq_ok_iff.mpr ⟨s, hread, hfeed⟩

/-- A refused expression behind a text that awaits an operand, with nothing open. -/
theorem tokenize_append_error (hread : Scanner.feed table a.toList .fresh = .ok () s)
    (hs : s.pending.awaitsOperand = true) (hdepth : s.brackets.depth = 0)
    (hb : tokenize table b = .error e) :
    tokenize table (a ++ b) = .error (e.movedBy s.position) := by
  have hcontinues := Scanner.continues_fresh table hs
  rw [hdepth] at hcontinues
  rw [tokenize_eq_error_iff_fresh, String.toList_append]
  rcases tokenize_eq_error_iff_fresh.mp hb with ⟨failed, hfail⟩ | ⟨last, hlast, howes⟩
  · left
    obtain ⟨s', hfail'⟩ := Scanner.feed_error_of_continues hcontinues hfail
    refine ⟨s', ?_⟩
    rw [Scanner.feed_append, hread]
    exact hfail'
  · right
    obtain ⟨s', hfeed, hs'⟩ := Scanner.feed_of_continues (Int.le_refl 0) hcontinues hlast
    exact ⟨s', Scanner.feed_append_eq_ok_iff.mpr ⟨s, hread, hfeed⟩, howes.of_continues hs'⟩

end Behind

end ExprLex
