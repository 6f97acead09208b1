import ExprLex.Proofs.Scanner.Fault

/-!
# States With the Same Continuations

What a scanner does with a character is settled by the lexeme in progress and the number of open
brackets. Two states match if they have the same lexeme in progress. A state in which nothing was
read also matches every state that awaits an operand, since no operator and no bracket can tell the
two apart. In matching states the same characters can be read, and they fail with the same errors,
told at the positions of each.
-/

namespace ExprLex

/-- The same error at a position that many characters further on. -/
def SyntaxError.movedBy (offset : Int) (e : SyntaxError) : SyntaxError :=
  .of e.kind e.token (e.position + offset)

/-- Where an error has the usual message, it is the same at its own position. -/
theorem SyntaxError.movedBy_zero {e : SyntaxError} (h : e = .of e.kind e.token e.position) :
    e.movedBy 0 = e := by
  rw [movedBy, Int.add_zero, ← h]

namespace Scanner

/-- The same may come behind two states, as far as the lexeme in progress goes. -/
inductive Matches (s t : Scanner) : Prop where
  /-- The same lexeme is in progress. -/
  | same : t.pending = s.pending → t.symbol = s.symbol → Matches s t
  /-- Nothing has been read in the one, and an operand is awaited in the other. -/
  | awaiting : s.pending = .empty → s.brackets.depth = 0 → t.pending.awaitsOperand = true →
      Matches s t

variable {table : OperatorTable} {c : Char} {s t : Scanner} {p : Pending} {e : SyntaxError}
  {offset : Int}

namespace Matches

/-- Once something has been read in the one state, the same lexeme is in progress in the other. -/
theorem same_of_ne_empty (h : Matches s t) (hs : s.pending ≠ .empty) :
    t.pending = s.pending ∧ t.symbol = s.symbol := by
  cases h with
  | same hpending hsymbol => exact ⟨hpending, hsymbol⟩
  | awaiting hempty => exact absurd hempty hs

theorem pending_eq (h : Matches s t) (hs : s.pending = p) (hp : p ≠ .empty) : t.pending = p := by
  subst hs
  exact (h.same_of_ne_empty hp).1

theorem awaitsOperand (h : Matches s t) : t.pending.awaitsOperand = s.pending.awaitsOperand := by
  cases h with
  | same hpending => rw [hpending]
  | awaiting hempty _ hawaits =>
    rw [hempty, hawaits]
    rfl

theorem endsOperand (h : Matches s t) : t.pending.endsOperand = s.pending.endsOperand := by
  cases h with
  | same hpending => rw [hpending]
  | awaiting hempty _ hawaits =>
    have hpoint := Pending.ne_lonePoint_of_awaitsOperand hawaits
    rw [Pending.awaitsOperand_eq_not_endsOperand hpoint, Bool.not_eq_true'] at hawaits
    rw [hempty, hawaits]
    rfl

theorem isNumber (h : Matches s t) : t.pending.isNumber = s.pending.isNumber := by
  cases h with
  | same hpending => rw [hpending]
  | awaiting hempty _ hawaits =>
    rw [hempty, Pending.isNumber_of_awaitsOperand hawaits]
    rfl

theorem ne_lonePoint (h : Matches s t) (hs : s.pending ≠ .lonePoint) : t.pending ≠ .lonePoint := by
  cases h with
  | same hpending => rwa [hpending]
  | awaiting _ _ hawaits => exact Pending.ne_lonePoint_of_awaitsOperand hawaits

theorem of_owed (h : Matches s t) (hs : s.pending = .sign ∨ s.pending = .binary) :
    (t.pending = .sign ∨ t.pending = .binary) ∧ t.symbol = s.symbol := by
  have hne : s.pending ≠ .empty := by
    rcases hs with hs | hs <;> simp [hs]
  obtain ⟨hpending, hsymbol⟩ := h.same_of_ne_empty hne
  exact ⟨hpending ▸ hs, hsymbol⟩

theorem advance (h : Matches s t) : Matches s.advance t.advance := by
  cases h with
  | same hpending hsymbol => exact .same hpending hsymbol
  | awaiting hempty hzero hawaits => exact .awaiting hempty hzero hawaits

end Matches

/-! ## The same characters -/

theorem Extends.ne_empty_left (h : Extends c s.pending p) : s.pending ≠ .empty := by
  intro hempty
  have hnumber := h.isNumber
  rw [hempty] at hnumber
  cases hnumber

/-- A lexeme grows in both states or in none. -/
theorem Extends.of_matches (h : Extends c s.pending p) (hst : Matches s t) :
    Extends c t.pending p := by
  rwa [(hst.same_of_ne_empty h.ne_empty_left).1]

/-- A lexeme begins in both states, as long as a bracket that it closes is open in both. -/
theorem Begins.of_matches (h : Begins table c s p) (hst : Matches s t)
    (hdepth : s.brackets.depth ≠ 0 → t.brackets.depth ≠ 0) : Begins table c t p := by
  cases h with
  | digit hc hp => exact .digit hc (hst.isNumber.trans hp)
  | point hc hp => exact .point hc (hst.isNumber.trans hp)
  | left hc hp => exact .left hc (hst.ne_lonePoint hp)
  | right hc hopen hp =>
    refine .right hc (hdepth hopen) ?_
    cases hst with
    | same hpending => rwa [hpending]
    | awaiting _ hzero => exact absurd hzero hopen
  | sign hc hp => exact .sign hc (hst.awaitsOperand.trans hp)
  | binary hc hp => exact .binary hc (hst.endsOperand.trans hp)
  | postfixOp hc hp => exact .postfixOp hc (hst.endsOperand.trans hp)

/-! ## The same errors -/

/-- What fails in a state fails in one that matches it, if as many brackets are open. The errors
differ in their positions like the states. -/
theorem Fault.of_matches (h : Fault table c s e) (hst : Matches s t)
    (hdepth : t.brackets.depth = s.brackets.depth) (hposition : t.position = s.position + offset) :
    Fault table c t (e.movedBy offset) := by
  -- an error is told at the position of a state or one place before it
  have here {kind : SyntaxErrorKind} {token : String}
      (hfault : Fault table c t (.of kind token t.position)) :
      Fault table c t ((SyntaxError.of kind token s.position).movedBy offset) := by
    rwa [hposition] at hfault
  have behind {kind : SyntaxErrorKind} {token : String}
      (hfault : Fault table c t (.of kind token (t.position - 1))) :
      Fault table c t ((SyntaxError.of kind token (s.position - 1)).movedBy offset) := by
    have hbefore : t.position - 1 = s.position - 1 + offset := by omega
    rwa [hbefore] at hfault
  cases h with
  | secondPoint hc hp =>
    have hpoint : t.pending = .decimal ∨ t.pending = .lonePoint :=
      hp.imp (hst.pending_eq · (by simp)) (hst.pending_eq · (by simp))
    exact here (.secondPoint hc hpoint)
  | barePoint hp hc =>
    rw [← hdepth] at hc
    exact behind (.barePoint (hst.pending_eq hp (by simp)) hc)
  | closesNothing hc hd => exact here (.closesNothing hc (hdepth.trans hd))
  | closesEmpty hc hd hp =>
    rw [← hdepth] at hd
    exact here (.closesEmpty hc hd (hst.pending_eq hp (by simp)))
  | closesOwed hc hd hp =>
    rw [← hdepth] at hd
    obtain ⟨howed, hsymbol⟩ := hst.of_owed hp
    rw [← hsymbol]
    exact behind (.closesOwed hc hd howed)
  | onlySign hacts hbinary hpost hp =>
    exact here (.onlySign hacts hbinary hpost (hst.endsOperand.trans hp))
  | noLeftOperand hsign hrole hp =>
    exact here (.noLeftOperand hsign hrole (hst.awaitsOperand.trans hp))
  | unknown hr hacts hblank => exact here (.unknown hr hacts hblank)

theorem Fault.movedBy_zero (h : Fault table c s e) : e.movedBy 0 = e :=
  SyntaxError.movedBy_zero (by cases h <;> rfl)

/-- What is owed in a state is owed in one that matches it, if as many brackets are open and the
newest ones differ in their positions like the states. -/
theorem Owes.of_matches (h : s.Owes e) (hst : Matches s t)
    (hdepth : t.brackets.depth = s.brackets.depth) (hposition : t.position = s.position + offset)
    (hnewest : ∀ entry older, s.brackets.newestFirst = entry :: older →
      ∃ entry' older', t.brackets.newestFirst = entry' :: older' ∧
        entry'.position = entry.position + offset) :
    t.Owes (e.movedBy offset) := by
  have behind {kind : SyntaxErrorKind} {token : String}
      (howes : t.Owes (.of kind token (t.position - 1))) :
      t.Owes ((SyntaxError.of kind token (s.position - 1)).movedBy offset) := by
    have hbefore : t.position - 1 = s.position - 1 + offset := by omega
    rwa [hbefore] at howes
  cases h with
  | digit hp => exact behind (.digit (hst.pending_eq hp (by simp)))
  | operand hp =>
    obtain ⟨howed, hsymbol⟩ := hst.of_owed hp
    rw [← hsymbol]
    exact behind (.operand howed)
  | bracket hend hd hlog =>
    obtain ⟨entry', older', hlog', hentry⟩ := hnewest _ _ hlog
    cases hst with
    | same hpending =>
      have howes : t.Owes (.unmatchedLeft entry'.position) :=
        .bracket (hpending ▸ hend) (hdepth ▸ hd) hlog'
      rwa [hentry] at howes
    | awaiting _ hzero =>
      -- nothing is open where nothing was read
      rw [hzero] at hd
      exact absurd hd (Int.lt_irrefl 0)

theorem Owes.movedBy_zero (h : s.Owes e) : e.movedBy 0 = e :=
  SyntaxError.movedBy_zero (by cases h <;> rfl)

end Scanner

end ExprLex
