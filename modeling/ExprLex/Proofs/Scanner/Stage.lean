import ExprLex.Proofs.Scanner.Lexeme
import ExprLex.Proofs.Token.Stage

/-!
# Stages of the Scanner

The scanner knows the stage of its draft: its kind of lexeme tells whether an operand has ended,
and its log tells how many brackets are open. The multiplications that it inserts are what keeps
the draft of juxtaposed factors in stage.
-/

namespace ExprLex

namespace Pending

/-- Whether the token of a lexeme starts an operand. -/
def startsOperand : Pending → Bool
  | .integer | .decimal | .lonePoint | .leftBracket | .sign => true
  | _ => false

/-- The number of open brackets after a lexeme. -/
def depthAfter (depth : Nat) : Pending → Nat
  | .leftBracket => depth + 1
  | .rightBracket => depth - 1
  | _ => depth

/-- The depth in the log is the number of open brackets as long as no right bracket comes first. -/
theorem depth_logged_eq_depthAfter {p : Pending} {position : Int} {log : BracketLog}
    {depth : Nat} (hlog : log.depth = depth) (hp : p = .rightBracket → depth ≠ 0) :
    (p.logged position log).depth = (p.depthAfter depth : Nat) := by
  rw [depth_logged, hlog]
  cases p with
  | leftBracket => rfl
  | rightBracket =>
    -- the depth does not fall below zero
    have hpos := hp rfl
    show (depth : Int) + -1 = (depth - 1 : Nat)
    omega
  | _ => exact Int.add_zero depth

end Pending

namespace Scanner

variable {table : OperatorTable} {c : Char} {s s' : Scanner} {p : Pending}

/-- The token of a lexeme brings a draft to the stage that its kind tells. -/
theorem Spells.next?_draftToken {symbol : String} {stage : Stage}
    (h : Spells table p symbol.toList) (hp : p ≠ .empty) (hended : stage.ended = !p.startsOperand)
    (hdepth : p = .rightBracket → stage.depth ≠ 0) :
    (draftToken? table symbol p).bind stage.next? =
      some ⟨!p.awaitsOperand, p.depthAfter stage.depth⟩ := by
  obtain ⟨ended, depth⟩ := stage
  dsimp only at hended hdepth
  subst hended
  cases p with
  | empty => exact absurd rfl hp
  | integer | decimal | lonePoint => rfl
  | leftBracket => rfl
  | rightBracket =>
    show Stage.next? ⟨true, depth⟩ (.bracket .right) = some ⟨true, depth - 1⟩
    rw [Stage.next?_right, if_pos ⟨rfl, hdepth rfl⟩]
  | binary =>
    -- an operand has ended, and the operator between two operands awaits the next one
    obtain ⟨op, hop, hbinary, -⟩ := h.exists_binary
    show ((table.binary? symbol).map Token.operator).bind (Stage.next? ⟨true, depth⟩) =
      some ⟨false, depth⟩
    simp [hop, Stage.next?_operator, Operator.isSign_of_isBinary hbinary,
      Operator.isPostfixOp_of_isBinary hbinary]
  | sign =>
    -- the sign changes nothing: an operand is still awaited
    obtain ⟨op, hop, hsign⟩ := h.exists_sign
    show ((table.sign? symbol).map Token.operator).bind (Stage.next? ⟨false, depth⟩) =
      some ⟨false, depth⟩
    simp [hop, Stage.next?_operator, hsign, Operator.isPostfixOp_of_isSign hsign]
  | postfixOp =>
    -- an operand has ended, and the operator behind it ends it again
    obtain ⟨op, hop, hpost⟩ := h.exists_postfixOp
    show ((table.postfixOp? symbol).map Token.operator).bind (Stage.next? ⟨true, depth⟩) =
      some ⟨true, depth⟩
    simp [hop, Stage.next?_operator, Operator.isSign_of_isPostfixOp hpost, hpost]

/-- Every lexeme has a token, whose kind tells whether an operand is awaited behind it. -/
theorem Spells.exists_draftToken {symbol : String} (h : Spells table p symbol.toList)
    (hp : p ≠ .empty) :
    ∃ token, draftToken? table symbol p = some token ∧ token.endsOperand = !p.awaitsOperand := by
  -- any stage will do in which the lexeme may stand
  have hnext := @Spells.next?_draftToken table p symbol ⟨!p.startsOperand, 1⟩ h hp rfl
    (fun _ => Nat.one_ne_zero)
  obtain ⟨token, htoken, hstage⟩ := Option.bind_eq_some_iff.mp hnext
  exact ⟨token, htoken, (Stage.ended_of_next? hstage).symm⟩

/-! ## The invariant -/

/-- The draft of a state is in stage, and the state knows at which. -/
structure Staged (table : OperatorTable) (s : Scanner) : Prop where
  spells : Spells table s.pending s.symbol.toList
  idle : s.pending = .empty → s.tokens = #[]
  stage : ∃ depth : Nat, s.brackets.depth = depth ∧
    Stage.start.after? (s.draft table) = some ⟨!s.pending.awaitsOperand, depth⟩

/-- Nothing has been read at the start, where an operand is awaited. -/
theorem staged_opening (expression : String) : (opening expression).Staged table where
  spells := .empty
  idle _ := rfl
  stage := ⟨0, rfl, rfl⟩

theorem Staged.advance (hs : s.Staged table) : s.advance.Staged table :=
  ⟨hs.spells, hs.idle, hs.stage⟩

theorem Staged.extend (hs : s.Staged table) (h : Extends c s.pending p) :
    (s.extend (String.singleton c) p).Staged table where
  spells := by
    rw [toList_symbol_extend]
    exact h.spells hs.spells
  idle := fun hp => absurd hp h.ne_empty
  stage := by
    obtain ⟨depth, hdepth, hstage⟩ := hs.stage
    refine ⟨depth, hdepth, ?_⟩
    -- the token in progress was a number and is one, and all numbers lead to the same stage
    rw [draft, draftToken?_of_isNumber h.isNumber, Option.toList_some,
      Stage.after?_append_singleton, Pending.awaitsOperand_of_isNumber h.isNumber] at hstage
    rw [draft, pending_extend, draftToken?_of_isNumber h.isNumber_right, Option.toList_some,
      Stage.after?_append_singleton, Pending.awaitsOperand_of_isNumber h.isNumber_right]
    exact hstage

/-- No bracket is open as long as nothing is read. -/
theorem Staged.depth_of_empty (hs : s.Staged table) (h : s.pending = .empty) :
    s.brackets.depth = 0 := by
  obtain ⟨depth, hdepth, hstage⟩ := hs.stage
  have hdraft : s.draft table = [] := by
    rw [draft, hs.idle h, h]
    rfl
  rw [hdraft, Stage.after?_nil, Option.some.injEq, Stage.start, Stage.mk.injEq] at hstage
  rw [hdepth, ← hstage.2]
  rfl

/-- Between the draft and a new lexeme, the multiplication makes the stage fit. -/
private theorem Staged.stage_before_begun (hs : s.Staged table) (h : Begins table c s p) :
    ∃ depth : Nat, s.brackets.depth = depth ∧ (p = .rightBracket → depth ≠ 0) ∧
      Stage.start.after? (s.begun table c p).tokens.toList = some ⟨!p.startsOperand, depth⟩ := by
  obtain ⟨depth, hdepth, hstage⟩ := hs.stage
  have hpoint : s.pending ≠ .lonePoint := h.ne_lonePoint
  rw [Pending.awaitsOperand_eq_not_endsOperand hpoint, Bool.not_not] at hstage
  refine ⟨depth, hdepth, ?_, ?_⟩
  · -- a right bracket closes a bracket that was open
    intro hp hzero
    subst hp
    cases h with
    | right _ hopen => exact hopen (by simp [hdepth, hzero])
  rw [toList_tokens_begun hpoint]
  cases hends : s.pending.endsOperand with
  | false =>
    -- only a lexeme that starts an operand can begin here
    rw [hends] at hstage
    have hstarts : p.startsOperand = true := by
      cases h with
      | digit | point | left | sign => rfl
      | right _ hopen hp =>
        rcases hp with hp | hp
        · rw [hends] at hp
          cases hp
        · exact absurd (hs.depth_of_empty hp) hopen
      | binary _ hp | postfixOp _ hp => rw [hends] at hp; cases hp
    simpa [hstarts] using hstage
  | true =>
    rw [hends] at hstage
    rw [Bool.true_and]
    cases hfactor : p.startsFactor with
    | false =>
      -- nothing is inserted, and no operand starts here
      have hstarts : p.startsOperand = false := by
        cases h with
        | sign _ hawaits =>
          rw [Pending.awaitsOperand_of_endsOperand hends] at hawaits
          cases hawaits
        | digit | point | left => cases hfactor
        | right | binary | postfixOp => rfl
      simpa [hstarts] using hstage
    | true =>
      -- the multiplication takes the draft to where an operand may start
      have hstarts : p.startsOperand = true := by
        cases p <;> first | rfl | cases hfactor
      rw [if_pos rfl, Stage.after?_append_singleton, hstage, hstarts]
      rfl

/-- A lexeme that begins moves the stage on by the token before it. -/
theorem Staged.begun (hs : s.Staged table) (h : Begins table c s p) :
    (s.begun table c p).Staged table where
  spells := by simpa using h.spells
  idle := by
    intro hp
    rw [pending_begun] at hp
    exact absurd hp h.ne_empty
  stage := by
    obtain ⟨depth, hdepth, hright, hstage⟩ := hs.stage_before_begun h
    refine ⟨p.depthAfter depth, Pending.depth_logged_eq_depthAfter hdepth hright, ?_⟩
    -- the finished tokens come first, and then the token of the new lexeme
    have hspells : Spells table p (String.singleton c).toList := by simpa using h.spells
    have hnext := @Spells.next?_draftToken table p _ ⟨!p.startsOperand, depth⟩ hspells
      h.ne_empty rfl hright
    rw [draft, Stage.after?_append, hstage, pending_begun, symbol_begun, Option.bind_some]
    cases hd : draftToken? table (String.singleton c) p with
    | none => rw [hd] at hnext; cases hnext
    | some token =>
      rw [hd] at hnext
      simpa [Stage.after?_cons] using hnext

/-- **Every state that is reached is staged.** -/
theorem staged_of_feed {cs : List Char} (hs : s.Staged table)
    (h : feed table cs s = .ok () s') : s'.Staged table :=
  invariant_of_feed (fun _ s => s.Staged table) [] Staged.extend Staged.begun Staged.advance hs h

/-! ## Complete states -/

/-- There is a lexeme in progress as soon as a character has been read that is not passed over. -/
theorem pending_eq_empty_iff_of_feed {cs : List Char} (hs : s.pending = .empty)
    (h : feed table cs s = .ok () s') : s'.pending = .empty ↔ table.visible cs = [] := by
  have hinvariant : s'.pending = .empty ↔ [] ++ table.visible cs = [] := by
    refine invariant_of_feed (fun read s => s.pending = .empty ↔ read = []) [] ?_ ?_ id
      (by simp [hs]) h
    · intro _ s c p _ hext
      simp [hext.ne_empty]
    · intro _ s c p _ hbegin
      simp [hbegin.ne_empty]
  simpa using hinvariant

/-- A left bracket in progress is an open one. -/
theorem Staged.depth_of_leftBracket (hs : s.Staged table) (h : s.pending = .leftBracket) :
    0 < s.brackets.depth := by
  obtain ⟨depth, hdepth, hstage⟩ := hs.stage
  rw [draft, h] at hstage
  change Stage.start.after? (s.tokens.toList ++ [.bracket .left]) = some ⟨false, depth⟩ at hstage
  rw [Stage.after?_append_singleton] at hstage
  obtain ⟨stage, -, hnext⟩ := Option.bind_eq_some_iff.mp hstage
  obtain ⟨ended, before⟩ := stage
  rw [Stage.next?_left] at hnext
  split at hnext
  · cases hnext
  · rw [Option.some.injEq, Stage.mk.injEq] at hnext
    omega

/-- A complete state that has read something has read an operand last. -/
theorem Staged.endsOperand_of_complete (hs : s.Staged table) (hcomplete : s.Complete)
    (hne : s.pending ≠ .empty) : s.pending.endsOperand = true := by
  have hend := hcomplete.mayEnd
  cases hp : s.pending with
  | empty => exact absurd hp hne
  | leftBracket =>
    -- a left bracket at the end would still be open
    have hpos := hs.depth_of_leftBracket hp
    have hclosed := hcomplete.depth_le
    omega
  | lonePoint | binary | sign => rw [hp] at hend; cases hend
  | _ => rfl

/-- A complete state that has read something ends its draft behind an operand, with nothing
open. -/
theorem Staged.after?_of_complete (hs : s.Staged table) (hcomplete : s.Complete)
    (hne : s.pending ≠ .empty) : Stage.start.after? (s.draft table) = some ⟨true, 0⟩ := by
  obtain ⟨depth, hdepth, hstage⟩ := hs.stage
  have hclosed := hcomplete.depth_le
  have hzero : depth = 0 := by omega
  have hends := hs.endsOperand_of_complete hcomplete hne
  have hawaits := Pending.awaitsOperand_of_endsOperand hends
  simpa [hawaits, hzero] using hstage

end Scanner

/-- **The stage of what was read.** The tokens of an expression in which something is visible end
behind an operand with nothing open; where nothing is visible, there are none. -/
theorem stage_of_tokenize {table : OperatorTable} {expression : String} {t : Tokenization}
    (h : tokenize table expression = .ok t) :
    (table.visible expression.toList = [] ∧ t.tokens = []) ∨
      (table.visible expression.toList ≠ [] ∧ Stage.start.after? t.tokens = some ⟨true, 0⟩) := by
  obtain ⟨s, hfeed, hcomplete, rfl⟩ := tokenize_eq_ok_iff_draft.mp h
  have hs := Scanner.staged_of_feed (Scanner.staged_opening expression) hfeed
  have hempty := Scanner.pending_eq_empty_iff_of_feed rfl hfeed
  by_cases hp : s.pending = .empty
  · left
    refine ⟨hempty.mp hp, ?_⟩
    rw [Scanner.draft, hs.idle hp, hp]
    rfl
  · right
    exact ⟨fun hvisible => hp (hempty.mpr hvisible), hs.after?_of_complete hcomplete hp⟩

end ExprLex
