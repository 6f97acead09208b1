import ExprLex.Proofs.Scanner.Notices

/-!
# Blanks Never Matter

Two expressions that look the same once the characters that are passed over are taken out of them
are read alike. Either both are accepted with the same tokens, or both are refused for the same
cause. Only the position that is told for it can depend on the blanks.
-/

namespace ExprLex

/-- What is wrong, without where it is. -/
def SyntaxError.cause (e : SyntaxError) : SyntaxErrorKind × String :=
  (e.kind, e.token)

theorem SyntaxError.cause_movedBy (e : SyntaxError) (offset : Int) :
    (e.movedBy offset).cause = e.cause :=
  rfl

/-- A text that looks like one with a certain visible character has that character behind a part
that looks like what is before it. -/
theorem OperatorTable.exists_of_visible_eq {table : OperatorTable} {c : Char}
    {cs before after : List Char} (h : table.visible cs = table.visible before ++ c :: after) :
    ∃ before' after', cs = before' ++ c :: after' ∧
      table.visible before = table.visible before' := by
  obtain ⟨front, back, rfl, hfront, hback⟩ := List.filter_eq_append_iff.mp h
  obtain ⟨passed, after', rfl, hpassed, -, -⟩ := List.filter_eq_cons_iff.mp hback
  refine ⟨front ++ passed, after', (List.append_assoc ..).symm, ?_⟩
  have hnone : table.visible passed = [] := by
    apply visible_eq_nil_iff.mpr
    simpa using hpassed
  rw [visible_append, hnone, List.append_nil]
  exact hfront.symm

namespace Scanner

variable {table : OperatorTable} {c : Char} {s s' t : Scanner} {e : SyntaxError}
  {cs ds : List Char}

/-! ## The same causes -/

theorem Fault.not_skips (h : Fault table c s e) : table.skips c = false := by
  cases hc : table.skips c with
  | false => rfl
  | true =>
    -- a character that is passed over can be read in any state
    have hread := readChar_eq_ok_iff.mpr (.skipped (s := s) hc)
    rw [readChar_eq_error_iff.mpr ⟨rfl, h⟩] at hread
    cases hread

/-- In agreeing states a character has the same fault, at a position of its own. -/
theorem Fault.exists_of_agree (h : Fault table c s e) (hs : s.Agree t) :
    ∃ e', Fault table c t e' ∧ e'.cause = e.cause := by
  have hposition : t.position = s.position + (t.position - s.position) := by omega
  exact ⟨_, h.of_matches hs.matches hs.depth.symm hposition, e.cause_movedBy _⟩

/-- Agreeing states owe the same, at positions of their own. -/
theorem Owes.exists_of_agree (h : s.Owes e) (hs : s.Agree t) :
    ∃ e', t.Owes e' ∧ e'.cause = e.cause := by
  cases h with
  | digit hp => exact ⟨_, .digit (hs.pending ▸ hp), rfl⟩
  | operand hp =>
    rw [hs.symbol]
    exact ⟨_, .operand (hs.pending ▸ hp), rfl⟩
  | bracket hend hopen hlog =>
    -- the newest brackets may stand at different positions
    rw [hs.depth] at hopen
    obtain ⟨entry', older', hlog'⟩ := BracketLog.exists_entry_of_depth_pos hopen
    exact ⟨_, .bracket (hs.pending ▸ hend) hopen hlog', rfl⟩

/-! ## Texts that look the same -/

/-- Where a text can be read, one that looks the same can be read. -/
theorem feed_of_visible_eq (hvisible : table.visible cs = table.visible ds) (hs : s.Agree t)
    (h : feed table cs s = .ok () s') : ∃ t', feed table ds t = .ok () t' ∧ s'.Agree t' := by
  obtain ⟨seen, hseen, hagree⟩ := feed_visible_of_feed (.refl s) h
  rw [hvisible] at hseen
  obtain ⟨t', hfeed, hagree'⟩ := feed_of_feed_visible hs hseen
  exact ⟨t', hfeed, hagree.trans hagree'⟩

/-- Where a text fails, one that looks the same fails for the same cause. -/
theorem feed_error_of_visible_eq (hvisible : table.visible cs = table.visible ds) (hs : s.Agree t)
    (h : feed table cs s = .error e s') :
    ∃ e' t', feed table ds t = .error e' t' ∧ e'.cause = e.cause := by
  obtain ⟨before, c, after, rfl, hfeed, hfault⟩ := feed_eq_error_iff.mp h
  rw [OperatorTable.visible_append,
    OperatorTable.visible_cons_of_not_skips hfault.not_skips] at hvisible
  obtain ⟨before', after', rfl, hbefore⟩ := OperatorTable.exists_of_visible_eq hvisible.symm
  obtain ⟨t', hfeed', hagree⟩ := feed_of_visible_eq hbefore hs hfeed
  obtain ⟨e', hfault', hcause⟩ := hfault.exists_of_agree hagree
  exact ⟨e', t', feed_eq_error_iff.mpr ⟨before', c, after', rfl, hfeed', hfault'⟩, hcause⟩

end Scanner

section Expressions

variable {table : OperatorTable} {a b : String} {t : Tokenization} {e : SyntaxError}

/-- An expression that looks like an accepted one is accepted with its tokens. -/
theorem tokenize_of_visible_eq (h : table.visible a.toList = table.visible b.toList)
    (ha : tokenize table a = .ok t) : tokenize table b = .ok t := by
  obtain ⟨s, hfeed, hcomplete, rfl⟩ := tokenize_eq_ok_iff_fresh.mp ha
  obtain ⟨s', hfeed', hagree⟩ := Scanner.feed_of_visible_eq h (.refl _) hfeed
  refine tokenize_eq_ok_iff_fresh.mpr ⟨s', hfeed', hcomplete.of_agree hagree, ?_⟩
  rw [hagree.draft, hagree.implicit]

/-- An expression that looks like a refused one is refused for the same cause. -/
theorem tokenize_error_of_visible_eq (h : table.visible a.toList = table.visible b.toList)
    (ha : tokenize table a = .error e) :
    ∃ e', tokenize table b = .error e' ∧ e'.cause = e.cause := by
  rcases tokenize_eq_error_iff_fresh.mp ha with ⟨failed, hfail⟩ | ⟨last, hlast, howes⟩
  · obtain ⟨e', t', hfail', hcause⟩ := Scanner.feed_error_of_visible_eq h (.refl _) hfail
    exact ⟨e', tokenize_eq_error_iff_fresh.mpr (.inl ⟨t', hfail'⟩), hcause⟩
  · obtain ⟨t', hlast', hagree⟩ := Scanner.feed_of_visible_eq h (.refl _) hlast
    obtain ⟨e', howes', hcause⟩ := howes.exists_of_agree hagree
    exact ⟨e', tokenize_eq_error_iff_fresh.mpr (.inr ⟨t', hlast', howes'⟩), hcause⟩

/-- **Blanks never matter.** Two expressions that look the same without the characters that are
passed over have the same outcome: the same tokens, of which the same ones were inserted, or errors
of the same kind about the same text. -/
theorem tokenize_blanks (h : table.visible a.toList = table.visible b.toList) :
    (tokenize table a).mapError SyntaxError.cause =
      (tokenize table b).mapError SyntaxError.cause := by
  cases ha : tokenize table a with
  | ok t =>
    rw [tokenize_of_visible_eq h ha]
  | error e =>
    obtain ⟨e', hb, hcause⟩ := tokenize_error_of_visible_eq h ha
    rw [hb]
    show Except.error e.cause = Except.error e'.cause
    rw [hcause]

/-- Blanks inside a number and around a point do not end the number, nor do they allow it a second
point. -/
theorem tokenize_blanks_point :
    (tokenize .standard "1 2. 5 (3)").mapError SyntaxError.cause = .ok
        ⟨[.number "12.5", .operator .multiplication, .bracket .left, .number "3",
          .bracket .right], [1]⟩ ∧
      (tokenize .standard "1 . 2 .").mapError SyntaxError.cause =
        .error (.multiplePoints, ".") := by
  have hnumber : OperatorTable.standard.visible "1 2. 5 (3)".toList =
      OperatorTable.standard.visible "12.5(3)".toList := by
    decide +kernel
  have hpoints : OperatorTable.standard.visible "1 . 2 .".toList =
      OperatorTable.standard.visible "1.2.".toList := by
    decide +kernel
  exact ⟨(tokenize_blanks hnumber).trans rfl, (tokenize_blanks hpoints).trans rfl⟩

end Expressions

end ExprLex
