import ExprLex.Proofs.Grammar.Derivation
import ExprLex.Proofs.Scanner.Progress

/-!
# What Is Derivable Can Be Read

A phrase of the grammar is read from every state that is ready for it, and leaves an operand
behind. The proof follows the derivation; brackets are balanced in a phrase, so that the depth
after it is that before it.
-/

namespace ExprLex

namespace Scanner

variable {table : OperatorTable} {s s' : Scanner} {text : List Char} {phrase : Phrase}

/-- The phrase may begin in the state. A number may not begin where another one is in
progress. -/
def Ready (phrase : Phrase) (text : List Char) (s : Scanner) : Prop :=
  match phrase with
  | .primary => s.pending ≠ .lonePoint ∧
      (Text.IsInteger text ∨ Text.IsDecimal text → s.pending.isNumber = false)
  | .item | .expression => s.pending.awaitsOperand = true

/-- An operand has been read, and all brackets in it were closed. -/
structure OperandRead (s s' : Scanner) : Prop where
  ended : s'.pending.endsOperand = true
  depth : s'.brackets.depth = s.brackets.depth

/-- Two texts that are read as parts of one operand make a part of it. -/
theorem OperandRead.trans {s'' : Scanner} (h : s.OperandRead s') (h' : s'.OperandRead s'') :
    s.OperandRead s'' :=
  ⟨h'.ended, h'.depth.trans h.depth⟩

theorem ready_primary (h : s.pending.awaitsOperand = true) : Ready .primary text s := by
  refine ⟨Pending.ne_lonePoint_of_awaitsOperand h, ?_⟩
  intro _
  exact Pending.isNumber_of_awaitsOperand h

/-! ## Signs and postfix operators -/

/-- Signs can be read where an operand is awaited, which it still is behind them. -/
theorem exists_feed_signs {signs : List Char} (hs : s.pending.awaitsOperand = true)
    (h : ∀ c ∈ signs, table.actsAsSign c = true) :
    ∃ s', feed table signs s = .ok () s' ∧ s'.pending.awaitsOperand = true ∧
      s'.brackets = s.brackets := by
  induction signs generalizing s with
  | nil => exact ⟨s, rfl, hs, rfl⟩
  | cons c rest ih =>
    have hbegin : Begins table c s .sign := .sign (h c List.mem_cons_self) hs
    have hread : (s.begun table c .sign).advance.pending.awaitsOperand = true := by
      simp [Pending.awaitsOperand]
    obtain ⟨s', hfeed, hawaits, hbrackets⟩ := ih hread fun d hd => h d (List.mem_cons_of_mem c hd)
    exact ⟨s', (feed_cons_of_begins hbegin).trans hfeed, hawaits, hbrackets⟩

/-- Operators can be read behind an operand, and belong to it. -/
theorem exists_feed_postfixOps {posts : List Char} (hs : s.pending.endsOperand = true)
    (h : ∀ c ∈ posts, table.actsAsPostfix c = true) :
    ∃ s', feed table posts s = .ok () s' ∧ s.OperandRead s' := by
  induction posts generalizing s with
  | nil => exact ⟨s, rfl, hs, rfl⟩
  | cons c rest ih =>
    have hbegin : Begins table c s .postfixOp := .postfixOp (h c List.mem_cons_self) hs
    have hread : (s.begun table c .postfixOp).advance.pending.endsOperand = true := by
      simp [Pending.endsOperand]
    obtain ⟨s', hfeed, hends, hdepth⟩ := ih hread fun d hd => h d (List.mem_cons_of_mem c hd)
    exact ⟨s', (feed_cons_of_begins hbegin).trans hfeed, hends, hdepth⟩

/-- Behind a right bracket or a postfix operator no number is in progress. -/
theorem not_isNumber_of_feed {c : Char} (h : feed table text s = .ok () s')
    (hlast : c ∈ text.getLast?) (hc : c = ')' ∨ table.actsAsPostfix c = true) :
    s'.pending.isNumber = false := by
  have hskips : table.skips c = false := by
    rcases hc with rfl | hc
    · exact OperatorTable.skips_of_isReserved rfl
    · exact OperatorTable.skips_of_isOperator (OperatorTable.isOperator_of_actsAsPostfix hc)
  have hnumeric : Text.isNumeric c = false := by
    rcases hc with rfl | hc
    · decide
    · exact Text.isNumeric_of_not_isReserved (OperatorTable.actsAsPostfix_iff.mp hc).1
  obtain ⟨before, rfl⟩ := List.getLast?_eq_some_iff.mp hlast
  obtain ⟨read, -, hread⟩ := feed_append_eq_ok_iff.mp h
  obtain ⟨next, hmove, hnext⟩ := feed_cons_eq_ok_iff.mp hread
  cases hnext
  -- the last character was read on its own, and it can only have begun a lexeme
  cases hmove with
  | skipped hskip => rw [hskips] at hskip; cases hskip
  | extended hext => rw [hext.isNumeric] at hnumeric; cases hnumeric
  | @begun p hbegin =>
    show (read.begun table c p).pending.isNumber = false
    rw [pending_begun]
    cases hp : p.isNumber with
    | false => rfl
    | true =>
      rw [hbegin.spells.isNumeric hp c List.mem_cons_self] at hnumeric
      cases hnumeric

/-! ## Phrases -/

/-- A group can be read where a left bracket can stand, if its inside can be read where an operand
is awaited. -/
theorem exists_feed_group (hdepth : 0 ≤ s.brackets.depth) (hs : s.pending ≠ .lonePoint)
    (hinner : ∀ {s : Scanner}, 0 ≤ s.brackets.depth → s.pending.awaitsOperand = true →
      ∃ s', feed table text s = .ok () s' ∧ s.OperandRead s') :
    ∃ s', feed table ('(' :: text ++ [')']) s = .ok () s' ∧ s.OperandRead s' := by
  -- inside, one more bracket is open, which is the one that is closed at the end
  have hopened : (s.begun table '(' .leftBracket).advance.brackets.depth = s.brackets.depth + 1 :=
    rfl
  have hawaits : (s.begun table '(' .leftBracket).advance.pending.awaitsOperand = true := by
    simp [Pending.awaitsOperand]
  obtain ⟨last, hfeed, hread⟩ := hinner (by omega) hawaits
  have hlast : last.brackets.depth = s.brackets.depth + 1 := hread.depth.trans hopened
  refine ⟨_, feed_bracketed hs hdepth hfeed hread.ended hlast, ?_, ?_⟩
  · simp [Pending.endsOperand]
  · show last.brackets.depth - 1 = s.brackets.depth
    omega

/-- **Phrases are read.** A phrase is read from every state that is ready for it. -/
theorem exists_feed_of_derives (h : Derives table phrase text) (hdepth : 0 ≤ s.brackets.depth)
    (hs : Ready phrase text s) : ∃ s', feed table text s = .ok () s' ∧ s.OperandRead s' := by
  -- induction on the derivation, for all states that are ready
  induction h generalizing s with
  | number hnumber =>
    have hnumeral := Text.isNumeral_iff.mpr hnumber
    obtain ⟨s', hfeed, hread⟩ := @exists_feed_of_isNumeral table s _ hnumeral (hs.2 hnumber)
    refine ⟨s', hfeed, ?_, by rw [hread.brackets]⟩
    rcases hread.pending with hp | hp <;> rw [hp] <;> rfl
  | group _ ih => exact exists_feed_group hdepth hs.1 fun hdepth hawaits => ih hdepth hawaits
  | item hsigns _ hposts ih =>
    obtain ⟨before, hfirst, hawaits, hbrackets⟩ := exists_feed_signs hs hsigns
    obtain ⟨operand, hsecond, hread⟩ := ih (hbrackets ▸ hdepth) (ready_primary hawaits)
    obtain ⟨s', hthird, hlast⟩ := exists_feed_postfixOps hread.ended hposts
    refine ⟨s', ?_, hlast.ended, ?_⟩
    · rw [List.append_assoc]
      exact feed_append_eq_ok_iff.mpr
        ⟨before, hfirst, feed_append_eq_ok_iff.mpr ⟨operand, hsecond, hthird⟩⟩
    · rw [hlast.depth, hread.depth, hbrackets]
  | single _ ih => exact ih hdepth hs
  | @binary xs ys c _ hc _ ihx ihy =>
    obtain ⟨operand, hfirst, hread⟩ := ihx hdepth hs
    have hbegin : Begins table c operand .binary := .binary hc hread.ended
    have hawaits : Ready .item ys (operand.begun table c .binary).advance := by
      simp [Ready, Pending.awaitsOperand]
    obtain ⟨s', hsecond, hlast⟩ := ihy (hread.depth ▸ hdepth) hawaits
    refine ⟨s', ?_, hlast.ended, hlast.depth.trans hread.depth⟩
    exact feed_append_eq_ok_iff.mpr
      ⟨operand, hfirst, (feed_cons_of_begins hbegin).trans hsecond⟩
  | @juxtaposed xs ys posts _ _ hposts hnumber ihx ihy =>
    obtain ⟨operand, hfirst, hread⟩ := ihx hdepth hs
    -- the factor is a group, or no number is in progress in front of it
    have hready : Ready .primary ys operand := by
      refine ⟨Pending.ne_lonePoint_of_endsOperand hread.ended, ?_⟩
      intro hys
      obtain ⟨c, hlast, hc⟩ := hnumber hys
      exact not_isNumber_of_feed hfirst hlast hc
    obtain ⟨factor, hsecond, hfactor⟩ := ihy (hread.depth ▸ hdepth) hready
    obtain ⟨s', hthird, hlast⟩ := exists_feed_postfixOps hfactor.ended hposts
    refine ⟨s', ?_, (hread.trans hfactor).trans hlast⟩
    rw [List.append_assoc]
    exact feed_append_eq_ok_iff.mpr
      ⟨operand, hfirst, feed_append_eq_ok_iff.mpr ⟨factor, hsecond, hthird⟩⟩

/-- An expression is complete behind an operand if no bracket is open. -/
theorem OperandRead.complete (h : s.OperandRead s') (hs : s.brackets.depth = 0) :
    s'.Complete where
  mayEnd := Pending.mayEnd_of_endsOperand h.ended
  depth_le := Int.le_of_eq (h.depth.trans hs)

end Scanner

end ExprLex
