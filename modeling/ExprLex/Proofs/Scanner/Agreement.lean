import ExprLex.Proofs.Scanner.Lexeme
import ExprLex.Proofs.Scanner.Matching

/-!
# Characters That Are Passed Over

Two scanners agree if they differ only in positions and notices. Reading keeps up the agreement,
and a character that is passed over does not disturb it. So an expression is read like its
visible text, and its tokens do not depend on where the blanks are.
-/

namespace ExprLex

namespace Scanner

/-- Two states are the same apart from positions and notices. -/
structure Agree (s t : Scanner) : Prop where
  tokens : s.tokens = t.tokens
  implicit : s.implicit = t.implicit
  pending : s.pending = t.pending
  symbol : s.symbol = t.symbol
  depth : s.brackets.depth = t.brackets.depth

variable {table : OperatorTable} {s s' t t' : Scanner} {c : Char} {p : Pending}

theorem Agree.refl (s : Scanner) : s.Agree s :=
  ⟨rfl, rfl, rfl, rfl, rfl⟩

theorem Agree.symm (h : s.Agree t) : t.Agree s :=
  ⟨h.tokens.symm, h.implicit.symm, h.pending.symm, h.symbol.symm, h.depth.symm⟩

theorem Agree.trans {u : Scanner} (h : s.Agree t) (h' : t.Agree u) : s.Agree u where
  tokens := h.tokens.trans h'.tokens
  implicit := h.implicit.trans h'.implicit
  pending := h.pending.trans h'.pending
  symbol := h.symbol.trans h'.symbol
  depth := h.depth.trans h'.depth

theorem Agree.advance_left (h : s.Agree t) : s.advance.Agree t :=
  ⟨h.tokens, h.implicit, h.pending, h.symbol, h.depth⟩

theorem Agree.advance (h : s.Agree t) : s.advance.Agree t.advance :=
  ⟨h.tokens, h.implicit, h.pending, h.symbol, h.depth⟩

theorem Agree.extend (h : s.Agree t) (text : String) (p : Pending) :
    (s.extend text p).Agree (t.extend text p) where
  tokens := h.tokens
  implicit := h.implicit
  pending := rfl
  symbol := by simp only [Scanner.extend, h.symbol]
  depth := h.depth

/-- States that agree still do when the same lexeme begins in both. -/
theorem Agree.begun (h : s.Agree t) (hs : s.pending ≠ .lonePoint) :
    (s.begun table c p).Agree (t.begun table c p) where
  tokens := by
    have ht : t.pending ≠ .lonePoint := h.pending ▸ hs
    apply Array.toList_inj.mp
    rw [toList_tokens_begun hs, toList_tokens_begun ht, draft, draft, h.tokens, h.pending,
      h.symbol]
  implicit := by
    have ht : t.pending ≠ .lonePoint := h.pending ▸ hs
    apply Array.toList_inj.mp
    rw [toList_implicit_begun hs, toList_implicit_begun ht, draft, draft, h.tokens, h.implicit,
      h.pending, h.symbol]
  pending := by rw [pending_begun, pending_begun]
  symbol := by rw [symbol_begun, symbol_begun]
  depth := by
    rw [brackets_begun, brackets_begun, Pending.depth_logged, Pending.depth_logged, h.depth]

theorem Agree.matches (h : s.Agree t) : Matches s t :=
  .same h.pending.symm h.symbol.symm

/-- What can begin depends only on what agreeing states have in common. -/
theorem Begins.of_agree (h : Begins table c s p) (hs : s.Agree t) : Begins table c t p :=
  h.of_matches hs.matches (by rw [hs.depth]; exact id)

/-- A move of one state can be made in every state that agrees with it. -/
theorem Move.of_agree (h : Move table c s s') (hs : s.Agree t) :
    ∃ t', Move table c t t' ∧ s'.Agree t' := by
  cases h with
  | skipped hskip => exact ⟨t, .skipped hskip, hs⟩
  | extended hext => exact ⟨_, .extended (hs.pending ▸ hext), hs.extend _ _⟩
  | begun hbegin => exact ⟨_, .begun (hbegin.of_agree hs), hs.begun hbegin.ne_lonePoint⟩

/-! ## Reading the visible text -/

theorem Move.eq_of_skips (h : Move table c s s') (hc : table.skips c = true) : s' = s := by
  cases h with
  | skipped => rfl
  | extended hext => rw [hext.not_skips] at hc; cases hc
  | begun hbegin => rw [hbegin.not_skips] at hc; cases hc

/-- What can be read can be read without the characters that are passed over. -/
theorem feed_visible_of_feed {cs : List Char} (hs : s.Agree t)
    (h : feed table cs s = .ok () s') :
    ∃ t', feed table (table.visible cs) t = .ok () t' ∧ s'.Agree t' := by
  induction cs generalizing s t with
  | nil =>
    cases h
    exact ⟨t, rfl, hs⟩
  | cons c rest ih =>
    obtain ⟨read, hmove, hrest⟩ := feed_cons_eq_ok_iff.mp h
    cases hc : table.skips c with
    | true =>
      -- only the first scanner moves, and only in its position
      rw [hmove.eq_of_skips hc] at hrest
      rw [OperatorTable.visible_cons_of_skips hc]
      exact ih hs.advance_left hrest
    | false =>
      obtain ⟨next, hnext, hagree⟩ := hmove.of_agree hs
      obtain ⟨t', hfeed, ht'⟩ := ih hagree.advance hrest
      rw [OperatorTable.visible_cons_of_not_skips hc]
      exact ⟨t', feed_cons_eq_ok_iff.mpr ⟨next, hnext, hfeed⟩, ht'⟩

/-- What can be read without the characters that are passed over can be read with them. -/
theorem feed_of_feed_visible {cs : List Char} (hs : s.Agree t)
    (h : feed table (table.visible cs) s = .ok () s') :
    ∃ t', feed table cs t = .ok () t' ∧ s'.Agree t' := by
  induction cs generalizing s t with
  | nil =>
    cases h
    exact ⟨t, rfl, hs⟩
  | cons c rest ih =>
    cases hc : table.skips c with
    | true =>
      -- only the second scanner moves, and only in its position
      rw [OperatorTable.visible_cons_of_skips hc] at h
      obtain ⟨t', hfeed, ht'⟩ := ih hs.symm.advance_left.symm h
      exact ⟨t', feed_cons_eq_ok_iff.mpr ⟨t, .skipped hc, hfeed⟩, ht'⟩
    | false =>
      rw [OperatorTable.visible_cons_of_not_skips hc] at h
      obtain ⟨read, hmove, hrest⟩ := feed_cons_eq_ok_iff.mp h
      obtain ⟨next, hnext, hagree⟩ := hmove.of_agree hs
      obtain ⟨t', hfeed, ht'⟩ := ih hagree.advance hrest
      exact ⟨t', feed_cons_eq_ok_iff.mpr ⟨next, hnext, hfeed⟩, ht'⟩

/-! ## What agrees -/

theorem Complete.of_agree (h : s.Complete) (hs : s.Agree t) : t.Complete :=
  ⟨hs.pending ▸ h.mayEnd, hs.depth ▸ h.depth_le⟩

theorem Agree.draft (h : s.Agree t) : s.draft table = t.draft table := by
  rw [Scanner.draft, Scanner.draft, h.tokens, h.symbol, h.pending]

end Scanner

/-- **Acceptance of the visible text.** An expression is accepted exactly if its visible text can
be read and leaves a complete state; its tokens are the draft of that state. -/
theorem tokenize_eq_ok_iff_visible {table : OperatorTable} {expression : String}
    {t : Tokenization} :
    tokenize table expression = .ok t ↔
      ∃ s, Scanner.feed table (table.visible expression.toList) (.opening expression) = .ok () s ∧
        s.Complete ∧ t = ⟨s.draft table, s.implicit.toList⟩ := by
  rw [tokenize_eq_ok_iff_draft]
  constructor
  · intro h
    rcases h with ⟨s, hfeed, hcomplete, rfl⟩
    obtain ⟨s', hfeed', hs'⟩ := Scanner.feed_visible_of_feed (.refl _) hfeed
    refine ⟨s', hfeed', hcomplete.of_agree hs', ?_⟩
    rw [hs'.draft, hs'.implicit]
  · intro h
    rcases h with ⟨s, hfeed, hcomplete, rfl⟩
    obtain ⟨s', hfeed', hs'⟩ := Scanner.feed_of_feed_visible (.refl _) hfeed
    refine ⟨s', hfeed', hcomplete.of_agree hs', ?_⟩
    rw [hs'.draft, hs'.implicit]

end ExprLex
