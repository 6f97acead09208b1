import ExprLex.Proofs.Operator.Role
import ExprLex.Scanner.Step

/-!
# Moves of the Scanner

What a character can do to a scanner that does not fail on it. It is passed over, or it extends
the lexeme in progress, or it begins another one; there is nothing else. The relation `Move` says
so without the order in which the classes of characters are tried, and reading a character
succeeds exactly along it (`readChar_eq_ok_iff`).
-/

namespace ExprLex

namespace Pending

/-- Whether the lexeme is a number or may become one. -/
def isNumber : Pending → Bool
  | .integer | .decimal | .lonePoint => true
  | _ => false

/-- Whether the lexeme starts a factor that needs no sign of multiplication before it. -/
def startsFactor : Pending → Bool
  | .integer | .lonePoint | .leftBracket => true
  | _ => false

/-- The log of brackets after a lexeme began at a position. -/
def logged (position : Int) (log : BracketLog) : Pending → BracketLog
  | .leftBracket => log.opened position .left
  | .rightBracket => log.closed position .right
  | _ => log

/-- By how much a lexeme changes the depth. -/
def depthStep : Pending → Int
  | .leftBracket => 1
  | .rightBracket => -1
  | _ => 0

theorem depth_logged (p : Pending) (position : Int) (log : BracketLog) :
    (p.logged position log).depth = log.depth + p.depthStep := by
  cases p with
  | leftBracket | rightBracket => rfl
  | _ => exact (Int.add_zero log.depth).symm

/-- Only for numbers it makes a difference whether an operand has ended or may go on. -/
theorem closesOperand_eq_endsOperand {p : Pending} (h : p.isNumber = false) :
    p.closesOperand = p.endsOperand := by
  cases p <;> first | rfl | cases h

theorem endsOperand_of_closesOperand {p : Pending} (h : p.closesOperand = true) :
    p.endsOperand = true := by
  cases p <;> first | rfl | cases h

theorem isNumber_of_closesOperand {p : Pending} (h : p.closesOperand = true) :
    p.isNumber = false := by
  cases p <;> first | rfl | cases h

/-- A lexeme either ends an operand or awaits one, unless it is a point without digits. -/
theorem awaitsOperand_eq_not_endsOperand {p : Pending} (h : p ≠ .lonePoint) :
    p.awaitsOperand = !p.endsOperand := by
  cases p <;> first | rfl | exact absurd rfl h

theorem endsOperand_of_not_awaitsOperand {p : Pending} (h : p.awaitsOperand = false)
    (hp : p ≠ .lonePoint) : p.endsOperand = true := by
  rw [awaitsOperand_eq_not_endsOperand hp] at h
  simpa using h

theorem awaitsOperand_of_endsOperand {p : Pending} (h : p.endsOperand = true) :
    p.awaitsOperand = false := by
  cases p <;> first | rfl | cases h

theorem awaitsOperand_of_isNumber {p : Pending} (h : p.isNumber = true) :
    p.awaitsOperand = false := by
  cases p <;> first | rfl | cases h

theorem isNumber_of_awaitsOperand {p : Pending} (h : p.awaitsOperand = true) :
    p.isNumber = false := by
  cases p <;> first | rfl | cases h

theorem ne_lonePoint_of_endsOperand {p : Pending} (h : p.endsOperand = true) :
    p ≠ .lonePoint := by
  intro hp
  subst hp
  cases h

theorem ne_lonePoint_of_awaitsOperand {p : Pending} (h : p.awaitsOperand = true) :
    p ≠ .lonePoint := by
  intro hp
  subst hp
  cases h

end Pending

namespace Scanner

/-! ## The relation -/

/-- A character extends a lexeme of one kind to a lexeme of another kind. -/
inductive Extends (c : Char) : Pending → Pending → Prop where
  /-- An integer like `1` becomes `12`. -/
  | integer : Text.isDigit c = true → Extends c .integer .integer
  /-- A decimal number like `1.` becomes `1.2`. -/
  | decimal : Text.isDigit c = true → Extends c .decimal .decimal
  /-- A lone point becomes `.2`. -/
  | fraction : Text.isDigit c = true → Extends c .lonePoint .decimal
  /-- An integer like `1` becomes `1.`. -/
  | point : c = '.' → Extends c .integer .decimal

/-- A character begins a lexeme of some kind in a state. -/
inductive Begins (table : OperatorTable) (c : Char) (s : Scanner) : Pending → Prop where
  /-- A digit that is not part of a longer number. -/
  | digit : Text.isDigit c = true → s.pending.isNumber = false → Begins table c s .integer
  /-- A point in front of its digits. -/
  | point : c = '.' → s.pending.isNumber = false → Begins table c s .lonePoint
  /-- A left bracket, anywhere but behind a lone point. -/
  | left : c = '(' → s.pending ≠ .lonePoint → Begins table c s .leftBracket
  /-- A right bracket, where something is open and an operand has ended. -/
  | right : c = ')' → s.brackets.depth ≠ 0 → s.pending.endsOperand = true ∨ s.pending = .empty →
      Begins table c s .rightBracket
  /-- A sign, where an operand is awaited. -/
  | sign : table.actsAsSign c = true → s.pending.awaitsOperand = true → Begins table c s .sign
  /-- An operator between two operands, where the first of them has ended. -/
  | binary : table.actsAsBinary c = true → s.pending.endsOperand = true →
      Begins table c s .binary
  /-- An operator behind its operand. -/
  | postfixOp : table.actsAsPostfix c = true → s.pending.endsOperand = true →
      Begins table c s .postfixOp

/-- The state after a character has begun a lexeme. A multiplication stands between two factors
side by side, and brackets are logged. -/
def begun (table : OperatorTable) (c : Char) (p : Pending) (s : Scanner) : Scanner :=
  { s.next table (s.pending.endsOperand && p.startsFactor) (String.singleton c) p with
    brackets := p.logged s.position s.brackets }

/-- What a character does to a scanner when it can be read. -/
inductive Move (table : OperatorTable) (c : Char) (s : Scanner) : Scanner → Prop where
  /-- A blank that is no operator changes nothing. -/
  | skipped : table.skips c = true → Move table c s s
  /-- The lexeme in progress becomes longer. -/
  | extended {p : Pending} : Extends c s.pending p →
      Move table c s (s.extend (String.singleton c) p)
  /-- The lexeme in progress is committed and another one begins. -/
  | begun {p : Pending} : Begins table c s p → Move table c s (s.begun table c p)

/-! ## What a lexeme begins with -/

section Conditions

variable {table : OperatorTable} {c : Char} {s : Scanner} {p q : Pending}

theorem Extends.isNumeric (h : Extends c p q) : Text.isNumeric c = true := by
  cases h with
  | integer hc | decimal hc | fraction hc => exact Text.isNumeric_of_isDigit hc
  | point hc => subst hc; rfl

theorem Extends.isNumber (h : Extends c p q) : p.isNumber = true := by
  cases h <;> rfl

theorem Extends.isNumber_right (h : Extends c p q) : q.isNumber = true := by
  cases h <;> rfl

theorem Extends.ne_empty (h : Extends c p q) : q ≠ .empty := by
  intro hq
  subst hq
  cases h

theorem Begins.ne_empty (h : Begins table c s p) : p ≠ .empty := by
  intro hp
  subst hp
  cases h

/-- No lexeme begins behind a point without digits, which has to be followed by a digit. -/
theorem Begins.ne_lonePoint (h : Begins table c s p) : s.pending ≠ .lonePoint := by
  intro hp
  cases h with
  | digit _ hn | point _ hn => rw [hp] at hn; cases hn
  | left _ hn => exact hn hp
  | right _ _ hn => rw [hp] at hn; rcases hn with hn | hn <;> cases hn
  | sign _ hn | binary _ hn | postfixOp _ hn => rw [hp] at hn; cases hn

theorem Begins.isNumber_of_isNumeric (h : Begins table c s p) (hc : Text.isNumeric c = true) :
    s.pending.isNumber = false := by
  -- a digit or a point has a fixed meaning, so that it is no operator
  have hreserved := Text.isReserved_of_isNumeric hc
  cases h with
  | digit _ hn | point _ hn => exact hn
  | left hc' | right hc' => subst hc'; cases hc
  | sign hc' => rw [(OperatorTable.actsAsSign_iff.mp hc').1] at hreserved; cases hreserved
  | binary hc' => rw [(OperatorTable.actsAsBinary_iff.mp hc').1] at hreserved; cases hreserved
  | postfixOp hc' => rw [(OperatorTable.actsAsPostfix_iff.mp hc').1] at hreserved; cases hreserved

theorem Begins.not_skips (h : Begins table c s p) : table.skips c = false := by
  cases h with
  | digit hc =>
    exact OperatorTable.skips_of_isReserved
      (Text.isReserved_of_isNumeric (Text.isNumeric_of_isDigit hc))
  | point hc | left hc | right hc =>
    subst hc
    exact OperatorTable.skips_of_isReserved rfl
  | sign hc =>
    exact OperatorTable.skips_of_isOperator (OperatorTable.isOperator_of_actsAsSign hc)
  | binary hc =>
    exact OperatorTable.skips_of_isOperator (OperatorTable.isOperator_of_actsAsBinary hc)
  | postfixOp hc =>
    exact OperatorTable.skips_of_isOperator (OperatorTable.isOperator_of_actsAsPostfix hc)

theorem Extends.not_skips (h : Extends c p q) : table.skips c = false :=
  OperatorTable.skips_of_isReserved (Text.isReserved_of_isNumeric h.isNumeric)

end Conditions

/-! ## Committing -/

section Fields

variable (table : OperatorTable) (s : Scanner)

/-- What a commit adds to the tokens is the token of the lexeme in progress, if there is one. -/
theorem toList_tokens_commit : (s.commit table).tokens.toList =
    s.tokens.toList ++ (pendingToken? table s.symbol s.pending).toList := by
  unfold commit
  cases pendingToken? table s.symbol s.pending with
  | none => simp
  | some token => simp

theorem implicit_commit : (s.commit table).implicit = s.implicit := by
  unfold commit
  split <;> rfl

theorem position_commit : (s.commit table).position = s.position := by
  unfold commit
  split <;> rfl

theorem brackets_commit : (s.commit table).brackets = s.brackets := by
  unfold commit
  split <;> rfl

theorem notices_commit : (s.commit table).notices = s.notices := by
  unfold commit
  split <;> rfl

theorem pending_next (juxtaposed : Bool) (symbol : String) (p : Pending) :
    (s.next table juxtaposed symbol p).pending = p := by
  unfold next
  split <;> rfl

theorem symbol_next (juxtaposed : Bool) (symbol : String) (p : Pending) :
    (s.next table juxtaposed symbol p).symbol = symbol := by
  unfold next
  split <;> rfl

theorem position_next (juxtaposed : Bool) (symbol : String) (p : Pending) :
    (s.next table juxtaposed symbol p).position = s.position := by
  unfold next
  split <;> exact position_commit table s

theorem brackets_next (juxtaposed : Bool) (symbol : String) (p : Pending) :
    (s.next table juxtaposed symbol p).brackets = s.brackets := by
  unfold next
  split <;> exact brackets_commit table s

/-- A lexeme that begins leaves behind the token before it and, if the two are juxtaposed, a
multiplication. -/
theorem toList_tokens_next (juxtaposed : Bool) (symbol : String) (p : Pending) :
    (s.next table juxtaposed symbol p).tokens.toList =
      s.tokens.toList ++ (pendingToken? table s.symbol s.pending).toList
        ++ if juxtaposed then [.operator .multiplication] else [] := by
  unfold next
  cases juxtaposed with
  | false => simp [start, toList_tokens_commit]
  | true => simp [start, insertImplicit, toList_tokens_commit]

/-- The index that is noted is that of the multiplication, behind the token of the lexeme before. -/
theorem toList_implicit_next (juxtaposed : Bool) (symbol : String) (p : Pending) :
    (s.next table juxtaposed symbol p).implicit.toList =
      s.implicit.toList ++ if juxtaposed then
        [(s.tokens.toList ++ (pendingToken? table s.symbol s.pending).toList).length] else [] := by
  unfold next
  cases juxtaposed with
  | false => simp [start, implicit_commit]
  | true =>
    rw [← toList_tokens_commit]
    simp [start, insertImplicit, implicit_commit]

theorem toList_notices_next (juxtaposed : Bool) (symbol : String) (p : Pending) :
    (s.next table juxtaposed symbol p).notices.toList =
      s.notices.toList ++ if juxtaposed then [.inserted s.position] else [] := by
  unfold next
  cases juxtaposed with
  | false => simp [start, notices_commit]
  | true => simp [start, insertImplicit, notices_commit, position_commit]

end Fields

/-! ## Reading succeeds exactly along moves -/

section Reading

variable {table : OperatorTable} {c : Char} {s s' : Scanner}

/-- A lexeme that is no bracket begins without a change of the log. -/
private theorem begun_eq_next {p : Pending} (hp : p.logged s.position s.brackets = s.brackets) :
    s.begun table c p =
      s.next table (s.pending.endsOperand && p.startsFactor) (String.singleton c) p := by
  unfold begun
  rw [hp, ← brackets_next table s (s.pending.endsOperand && p.startsFactor)]

theorem readDigit_of_not_isNumber (hn : s.pending.isNumber = false) :
    readDigit table (String.singleton c) s = .ok () (s.begun table c .integer) := by
  rw [begun_eq_next rfl, ← Pending.closesOperand_eq_endsOperand hn]
  unfold readDigit
  cases hp : s.pending with
  | integer | decimal | lonePoint => rw [hp] at hn; cases hn
  | _ => rfl

theorem readPoint_of_not_isNumber (hn : s.pending.isNumber = false) :
    readPoint table (String.singleton c) s = .ok () (s.begun table c .lonePoint) := by
  rw [begun_eq_next rfl, ← Pending.closesOperand_eq_endsOperand hn]
  unfold readPoint
  cases hp : s.pending with
  | integer | decimal | lonePoint => rw [hp] at hn; cases hn
  | _ => rfl

/-- A left bracket can stand anywhere but behind a point without digits. -/
theorem readLeft_of_ne_lonePoint (hn : s.pending ≠ .lonePoint) :
    readLeft table (String.singleton c) s = .ok () (s.begun table c .leftBracket) := by
  unfold readLeft begun
  cases hp : s.pending with
  | lonePoint => exact absurd hp hn
  | _ => simp only [position_next, brackets_next]; rfl

/-- A right bracket can stand behind an operand if something is open. -/
theorem readRight_of_endsOperand (hd : s.brackets.depth ≠ 0)
    (hp : s.pending.endsOperand = true ∨ s.pending = .empty) :
    readRight table (String.singleton c) s = .ok () (s.begun table c .rightBracket) := by
  unfold readRight begun
  rw [if_neg hd]
  simp only [position_next, brackets_next, Pending.logged, Pending.startsFactor, Bool.and_false]
  cases hq : s.pending with
  | lonePoint | leftBracket | sign | binary => rw [hq] at hp; rcases hp with hp | hp <;> cases hp
  | _ => rfl

/-- Where an operand is awaited, an operator is a sign. -/
theorem readOperator_of_sign (hs : (table.sign? (String.singleton c)).isSome = true)
    (hp : s.pending.awaitsOperand = true) :
    readOperator table (String.singleton c) s = .ok () (s.begun table c .sign) := by
  have hpoint := Pending.ne_lonePoint_of_awaitsOperand hp
  rw [begun_eq_next rfl]
  simp only [readOperator, hpoint, hs, hp, Pending.startsFactor, if_true, if_false,
    Bool.and_self, Bool.and_false]

/-- Behind an operand, an operator stands behind it if it has that role. -/
theorem readOperator_of_postfixOp (hs : (table.postfixOp? (String.singleton c)).isSome = true)
    (hp : s.pending.endsOperand = true) :
    readOperator table (String.singleton c) s = .ok () (s.begun table c .postfixOp) := by
  have hpoint := Pending.ne_lonePoint_of_endsOperand hp
  have hawait := Pending.awaitsOperand_of_endsOperand hp
  obtain ⟨op, hop⟩ := Option.isSome_iff_exists.mp hs
  rw [begun_eq_next rfl]
  simp [readOperator, hpoint, hop, hawait, Pending.startsFactor]

/-- Behind an operand, an operator without the role behind it stands between two operands. -/
theorem readOperator_of_binary (hs : (table.binary? (String.singleton c)).isSome = true)
    (hn : (table.postfixOp? (String.singleton c)).isNone = true)
    (hp : s.pending.endsOperand = true) :
    readOperator table (String.singleton c) s = .ok () (s.begun table c .binary) := by
  have hpoint := Pending.ne_lonePoint_of_endsOperand hp
  have hawait := Pending.awaitsOperand_of_endsOperand hp
  obtain ⟨op, hop⟩ := Option.isSome_iff_exists.mp hs
  rw [Option.isNone_iff_eq_none] at hn
  rw [begun_eq_next rfl]
  simp [readOperator, hpoint, hop, hn, hawait, Pending.startsFactor]

private theorem move_of_readDigit (hc : Text.isDigit c = true)
    (h : readDigit table (String.singleton c) s = .ok () s') : Move table c s s' := by
  cases hn : s.pending.isNumber with
  | false =>
    rw [readDigit_of_not_isNumber hn] at h
    cases h
    exact .begun (.digit hc hn)
  | true =>
    -- a number in progress takes the digit up, whatever its kind
    unfold readDigit at h
    cases hp : s.pending with
    | integer => rw [hp] at h; cases h; exact .extended (hp ▸ .integer hc)
    | decimal => rw [hp] at h; cases h; exact .extended (hp ▸ .decimal hc)
    | lonePoint => rw [hp] at h; cases h; exact .extended (hp ▸ .fraction hc)
    | _ => rw [hp] at hn; cases hn

private theorem move_of_readPoint (h : readPoint table (String.singleton '.') s = .ok () s') :
    Move table '.' s s' := by
  cases hn : s.pending.isNumber with
  | false =>
    rw [readPoint_of_not_isNumber hn] at h
    cases h
    exact .begun (.point rfl hn)
  | true =>
    -- of the numbers, only an integer takes a point
    unfold readPoint at h
    cases hp : s.pending with
    | integer => rw [hp] at h; cases h; exact .extended (hp ▸ .point rfl)
    | decimal | lonePoint => rw [hp] at h; cases h
    | _ => rw [hp] at hn; cases hn

private theorem move_of_readLeft (h : readLeft table (String.singleton '(') s = .ok () s') :
    Move table '(' s s' := by
  by_cases hn : s.pending = .lonePoint
  · unfold readLeft at h
    rw [hn] at h
    cases h
  · rw [readLeft_of_ne_lonePoint hn] at h
    cases h
    exact .begun (.left rfl hn)

private theorem move_of_readRight (h : readRight table (String.singleton ')') s = .ok () s') :
    Move table ')' s s' := by
  by_cases hd : s.brackets.depth = 0
  · unfold readRight at h
    rw [if_pos hd] at h
    cases h
  · by_cases hp : s.pending.endsOperand = true ∨ s.pending = .empty
    · rw [readRight_of_endsOperand hd hp] at h
      cases h
      exact .begun (.right rfl hd hp)
    · -- the kinds that are left are those with an error of their own
      unfold readRight at h
      rw [if_neg hd] at h
      cases hq : s.pending with
      | lonePoint | leftBracket | sign | binary => rw [hq] at h; cases h
      | _ => rw [hq] at hp; exact absurd (by decide) hp

/-- Where an operator is read, its role is told by what is in progress. -/
private theorem move_of_readOperator (hr : Text.isReserved c = false)
    (h : readOperator table (String.singleton c) s = .ok () s') : Move table c s s' := by
  by_cases hpoint : s.pending = .lonePoint
  · simp only [readOperator, hpoint, if_true] at h
    cases h
  cases hawait : s.pending.awaitsOperand with
  | true =>
    by_cases hs : (table.sign? (String.singleton c)).isSome = true
    · rw [readOperator_of_sign hs hawait] at h
      cases h
      exact .begun (.sign (OperatorTable.actsAsSign_iff.mpr ⟨hr, hs⟩) hawait)
    · -- nothing but a sign can stand here, whatever else the character means
      have hs' :
          ¬((table.sign? (String.singleton c)).isSome && s.pending.awaitsOperand) = true := by
        rw [hawait, Bool.and_true]
        exact hs
      rw [readOperator, if_neg hpoint, if_neg hs'] at h
      split at h
      · cases h
      · cases h
  | false =>
    have hends := Pending.endsOperand_of_not_awaitsOperand hawait hpoint
    -- behind an operand, an operator that stands there comes before one between two operands
    by_cases hs : (table.postfixOp? (String.singleton c)).isSome = true
    · rw [readOperator_of_postfixOp hs hends] at h
      cases h
      exact .begun (.postfixOp (OperatorTable.actsAsPostfix_iff.mpr ⟨hr, hs⟩) hends)
    have hn : (table.postfixOp? (String.singleton c)).isNone = true := by simpa using hs
    by_cases hb : (table.binary? (String.singleton c)).isSome = true
    · rw [readOperator_of_binary hb hn hends] at h
      cases h
      exact .begun (.binary (OperatorTable.actsAsBinary_iff.mpr ⟨hr, hb, hn⟩) hends)
    · -- the character can only be a sign, which cannot stand here
      have hb' : (table.binary? (String.singleton c)).isNone = true := by simpa using hb
      simp only [readOperator, hpoint, hawait, hn, hb', if_false, if_true, Bool.and_self,
        Bool.and_false] at h
      cases h

/-- Every character that is read makes one of the moves. -/
private theorem move_of_readChar (h : readChar table c s = .ok () s') : Move table c s s' := by
  -- the classes in the order in which they are tried
  by_cases hdigit : Text.isDigit c = true
  · simp only [readChar, hdigit, if_true] at h
    exact move_of_readDigit hdigit h
  by_cases hpoint : c = '.'
  · subst hpoint
    exact move_of_readPoint h
  by_cases hleft : c = '('
  · subst hleft
    exact move_of_readLeft h
  by_cases hright : c = ')'
  · subst hright
    exact move_of_readRight h
  by_cases hop : table.isOperator (String.singleton c) = true
  · simp only [readChar, hdigit, hpoint, hleft, hright, hop, if_true, if_false] at h
    refine move_of_readOperator (Text.isReserved_eq_false_iff.mpr ⟨?_, hpoint, hleft, hright⟩) h
    simpa using hdigit
  by_cases hblank : Text.isBlank c = true
  · simp only [readChar, hdigit, hpoint, hleft, hright, hop, hblank, if_false] at h
    cases h
    exact .skipped (by simp [OperatorTable.skips, hblank, hop])
  · simp only [readChar, hdigit, hpoint, hleft, hright, hop, hblank, if_false] at h
    cases h

theorem readChar_eq_readOperator (hr : Text.isReserved c = false)
    (hop : table.isOperator (String.singleton c) = true) :
    readChar table c s = readOperator table (String.singleton c) s := by
  obtain ⟨hdigit, hpoint, hleft, hright⟩ := Text.isReserved_eq_false_iff.mp hr
  simp only [readChar, hdigit, hpoint, hleft, hright, hop, Bool.false_eq_true, if_true, if_false]

/-- Every move is made by reading the character. -/
private theorem readChar_of_move (h : Move table c s s') : readChar table c s = .ok () s' := by
  cases h with
  | skipped hskip =>
    -- the character fails all tests before the one for blanks
    obtain ⟨hdigit, hpoint, hleft, hright⟩ :=
      Text.isReserved_eq_false_iff.mp (OperatorTable.isReserved_of_skips hskip)
    simp only [OperatorTable.skips, Bool.and_eq_true, Bool.not_eq_true'] at hskip
    simp only [readChar, hdigit, hpoint, hleft, hright, hskip.1, hskip.2, Bool.false_eq_true,
      if_false]
    rfl
  | extended hext =>
    generalize hp : s.pending = p at hext
    cases hext with
    | integer hc | decimal hc | fraction hc =>
      simp only [readChar, hc, if_true, readDigit, hp]
    | point hc =>
      subst hc
      show readPoint table (String.singleton '.') s = _
      simp only [readPoint, hp]
  | begun hbegin =>
    cases hbegin with
    | digit hc hn =>
      simp only [readChar, hc, if_true]
      exact readDigit_of_not_isNumber hn
    | point hc hn =>
      subst hc
      exact readPoint_of_not_isNumber hn
    | left hc hn =>
      subst hc
      exact readLeft_of_ne_lonePoint hn
    | right hc hd hp =>
      subst hc
      exact readRight_of_endsOperand hd hp
    | sign hc hp =>
      rw [readChar_eq_readOperator (OperatorTable.actsAsSign_iff.mp hc).1
        (OperatorTable.isOperator_of_actsAsSign hc)]
      exact readOperator_of_sign (OperatorTable.actsAsSign_iff.mp hc).2 hp
    | binary hc hp =>
      obtain ⟨hr, hb, hn⟩ := OperatorTable.actsAsBinary_iff.mp hc
      rw [readChar_eq_readOperator hr (OperatorTable.isOperator_of_actsAsBinary hc)]
      exact readOperator_of_binary hb hn hp
    | postfixOp hc hp =>
      rw [readChar_eq_readOperator (OperatorTable.actsAsPostfix_iff.mp hc).1
        (OperatorTable.isOperator_of_actsAsPostfix hc)]
      exact readOperator_of_postfixOp (OperatorTable.actsAsPostfix_iff.mp hc).2 hp

/-- Reading a character succeeds exactly along the moves. -/
theorem readChar_eq_ok_iff : readChar table c s = .ok () s' ↔ Move table c s s' :=
  ⟨move_of_readChar, readChar_of_move⟩

end Reading

end Scanner

end ExprLex
