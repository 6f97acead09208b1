import ExprLex.Proofs.Operator.Standard
import ExprLex.Proofs.Scanner.Reflection
import ExprLex.Proofs.Scanner.Stop

/-!
# Which Error an Expression Gets

With the standard operators, the error of an expression is a function of its text. It depends on the
character at which reading stops, if there is one, and on the visible text before it: on its balance
of brackets, on the number that it ends with, and on its last character. A text may have several
faults at once, and the conditions say which of them comes first.
-/

namespace ExprLex

/-- The last character is an operator that waits for its operand. -/
def Owing (read : List Char) (w : Char) : Prop :=
  read.getLast? = some w ∧ w ∈ OperatorTable.standardCharacters ∧ w ≠ '!'

/-- The kind of the error and the text at fault if a visible text can be read and a character behind
it, or the end, cannot. -/
inductive Diagnosis (read : List Char) : Option Char → SyntaxErrorKind → String → Prop where
  /-- A point: the number in progress has one. -/
  | secondPoint : '.' ∈ Text.run read → Diagnosis read (some '.') .multiplePoints "."
  /-- A right bracket: that nothing is open outweighs what stands before it. -/
  | closesNothing : Text.balance read = 0 → Diagnosis read (some ')') .unmatchedRight ")"
  /-- A right bracket behind a point without digits. -/
  | closesPoint : Text.balance read ≠ 0 → Text.run read = ['.'] →
      Diagnosis read (some ')') .trailingPoint "."
  /-- A right bracket behind the left one. -/
  | closesEmpty : Text.balance read ≠ 0 → Text.run read ≠ ['.'] → read.getLast? = some '(' →
      Diagnosis read (some ')') .emptyBrackets ")"
  /-- A right bracket behind an operator that waits for its operand. -/
  | closesOwed {w : Char} : Text.balance read ≠ 0 → Text.run read ≠ ['.'] → Owing read w →
      Diagnosis read (some ')') .missingRight (String.singleton w)
  /-- A left bracket behind a point without digits. -/
  | opensPoint : Text.run read = ['.'] → Diagnosis read (some '(') .trailingPoint "."
  /-- An operator behind a point without digits. -/
  | operatorPoint {c : Char} : c ∈ OperatorTable.standardCharacters → Text.run read = ['.'] →
      Diagnosis read (some c) .trailingPoint "."
  /-- An operator that cannot be read in any other place has nothing on its left. -/
  | noLeftOperand {c : Char} : c ∈ OperatorTable.standardCharacters → Text.run read ≠ ['.'] →
      Diagnosis read (some c) .missingLeft (String.singleton c)
  /-- Any other character that is not a blank. -/
  | unknown {c : Char} : Text.isReserved c = false → c ∉ OperatorTable.standardCharacters →
      Text.isBlank c = false → Diagnosis read (some c) .unknownSymbol (String.singleton c)
  /-- The end behind a point without digits. -/
  | endsPoint : Text.run read = ['.'] → Diagnosis read none .trailingPoint "."
  /-- The end behind an operator that waits for its operand. -/
  | endsOwed {w : Char} : Text.run read ≠ ['.'] → Owing read w →
      Diagnosis read none .missingRight (String.singleton w)
  /-- The end: what the last lexeme lacks outweighs open brackets. -/
  | endsOpen : Text.run read ≠ ['.'] → (∀ w, ¬Owing read w) → 0 < Text.balance read →
      Diagnosis read none .unmatchedLeft "("

/-! ## One diagnosis at most -/

/-- The operator that waits for its operand at the end of a visible text. -/
def owed? (read : List Char) : Option Char :=
  read.getLast?.filter fun w => w ∈ OperatorTable.standardCharacters ∧ w ≠ '!'

/-- The error that the conditions leave for a visible text and what stands behind it. -/
def diagnose (read : List Char) : Option Char → SyntaxErrorKind × String
  | none =>
    if Text.run read = ['.'] then (.trailingPoint, ".")
    else match owed? read with
      | some w => (.missingRight, String.singleton w)
      | none => (.unmatchedLeft, "(")
  | some c =>
    if c = '.' then (.multiplePoints, ".")
    else if c = ')' ∧ Text.balance read = 0 then (.unmatchedRight, ")")
    else if Text.isReserved c = false ∧ c ∉ OperatorTable.standardCharacters then
      (.unknownSymbol, String.singleton c)
    else if Text.run read = ['.'] then (.trailingPoint, ".")
    else if c = ')' then match owed? read with
      | some w => (.missingRight, String.singleton w)
      | none => (.emptyBrackets, ")")
    else (.missingLeft, String.singleton c)

section Diagnoses

variable {read : List Char} {next : Option Char} {kind kind' : SyntaxErrorKind}
  {token token' : String} {c w : Char}

theorem owing_iff : Owing read w ↔ owed? read = some w := by
  simp [Owing, owed?, Option.filter_eq_some_iff]

/-- No operator waits at the end of a text exactly if nothing is owed. -/
theorem owed?_eq_none_iff : owed? read = none ↔ ∀ w, ¬Owing read w := by
  simp only [owing_iff, Option.eq_none_iff_forall_ne_some, ne_eq]

/-- No operator waits behind a left bracket, which has a fixed meaning. -/
theorem owed?_of_leftBracket (h : read.getLast? = some '(') : owed? read = none := by
  rw [owed?, h]
  decide

/-- An operator has no fixed meaning, so that only a point before it makes a difference. -/
theorem diagnose_operator (hc : c ∈ OperatorTable.standardCharacters) :
    diagnose read (some c) =
      if Text.run read = ['.'] then (.trailingPoint, ".")
      else (.missingLeft, String.singleton c) := by
  have hreserved := OperatorTable.isReserved_of_mem_standardCharacters hc
  have hpoint : c ≠ '.' := by rintro rfl; cases hreserved
  have hright : c ≠ ')' := by rintro rfl; cases hreserved
  simp [diagnose, hpoint, hright, hc]

theorem diagnose_unknown (hreserved : Text.isReserved c = false)
    (hc : c ∉ OperatorTable.standardCharacters) :
    diagnose read (some c) = (.unknownSymbol, String.singleton c) := by
  have hpoint : c ≠ '.' := by rintro rfl; cases hreserved
  have hright : c ≠ ')' := by rintro rfl; cases hreserved
  simp [diagnose, hpoint, hright, hreserved, hc]

/-- Every diagnosis is the one that the conditions leave. -/
theorem Diagnosis.diagnose_eq (h : Diagnosis read next kind token) :
    diagnose read next = (kind, token) := by
  have hright : Text.isReserved ')' = true := by decide
  have hleft : Text.isReserved '(' = true := by decide
  cases h with
  | secondPoint hpoint => rfl
  | closesNothing hbalance => simp [diagnose, hbalance]
  | closesPoint hbalance hrun => simp [diagnose, hbalance, hright, hrun]
  | closesEmpty hbalance hrun hlast =>
    simp [diagnose, hbalance, hright, hrun, owed?_of_leftBracket hlast]
  | closesOwed hbalance hrun howing =>
    simp [diagnose, hbalance, hright, hrun, owing_iff.mp howing]
  | opensPoint hrun => simp [diagnose, hleft, hrun]
  | operatorPoint hc hrun => rw [diagnose_operator hc, if_pos hrun]
  | noLeftOperand hc hrun => rw [diagnose_operator hc, if_neg hrun]
  | unknown hreserved hc hblank => exact diagnose_unknown hreserved hc
  | endsPoint hrun => simp [diagnose, hrun]
  | endsOwed hrun howing => simp [diagnose, hrun, owing_iff.mp howing]
  | endsOpen hrun howing hbalance => simp [diagnose, hrun, owed?_eq_none_iff.mpr howing]

/-- A text has one diagnosis at most. -/
theorem Diagnosis.unique (h : Diagnosis read next kind token)
    (h' : Diagnosis read next kind' token') : kind = kind' ∧ token = token' :=
  Prod.mk.inj (h.diagnose_eq.symm.trans h'.diagnose_eq)

end Diagnoses

namespace Scanner

variable {read : List Char} {c : Char} {s : Scanner} {e : SyntaxError}

/-! ## Operators that wait for their operands -/

theorem Reflects.run_ne_point {table : OperatorTable} (hs : s.Reflects table read)
    (hp : s.pending ≠ .lonePoint) : Text.run (table.visible read) ≠ ['.'] :=
  fun hrun => hp (hs.run_eq_point_iff.mp hrun)

/-- An operator in progress that waits for its operand is seen in the text. -/
theorem Reflects.owing (hs : s.Reflects .standard read)
    (hp : s.pending = .sign ∨ s.pending = .binary) :
    Text.run (OperatorTable.standard.visible read) ≠ ['.'] ∧
      ∃ w, Owing (OperatorTable.standard.visible read) w ∧ s.symbol = String.singleton w := by
  have hawaits : s.pending.awaitsOperand = true := by
    rcases hp with hp | hp
    · rw [hp]
      rfl
    · rw [hp]
      rfl
  obtain ⟨w, hlast, hsymbol, hacts⟩ := hs.last_of_owed hp
  have hbinary : OperatorTable.standard.actsAsBinary w = true :=
    hacts.elim OperatorTable.actsAsBinary_standard_of_actsAsSign id
  exact ⟨hs.run_ne_point (Pending.ne_lonePoint_of_awaitsOperand hawaits), w,
    ⟨hlast, OperatorTable.actsAsBinary_standard_iff.mp hbinary⟩, hsymbol⟩

/-- A lexeme that may be the last one is no operator that waits. -/
theorem Spells.not_owing {p : Pending} {cs : List Char} {w : Char}
    (h : Spells .standard p cs) (hend : p.mayEnd = true) (hlast : cs.getLast? = some w) :
    ¬(w ∈ OperatorTable.standardCharacters ∧ w ≠ '!') := by
  rintro ⟨hmem, hne⟩
  have hreserved := OperatorTable.isReserved_of_mem_standardCharacters hmem
  cases hp : p.isNumber with
  | true =>
    have hnumeric := h.isNumeric hp w (List.mem_of_getLast? hlast)
    rw [Text.isReserved_of_isNumeric hnumeric] at hreserved
    cases hreserved
  | false =>
    cases h with
    | empty => cases hlast
    | integer | decimal | lonePoint => cases hp
    | leftBracket | rightBracket =>
      cases hlast
      revert hreserved
      decide
    | sign | binary => cases hend
    | postfixOp hpost =>
      cases hlast
      exact hne (OperatorTable.eq_of_actsAsPostfix_standard hpost)

/-- No operator waits at the end of a text that may be the end of an expression. -/
theorem Reflects.not_owing (hs : s.Reflects .standard read) (hend : s.pending.mayEnd = true)
    (w : Char) : ¬Owing (OperatorTable.standard.visible read) w := by
  intro h
  rcases h with ⟨hlast, howing⟩
  rw [hs.last] at hlast
  exact hs.spells.not_owing hend hlast howing

/-! ## Every fault is diagnosed -/

/-- The fault of a character is told by the visible text before it. -/
theorem Fault.diagnosis (h : Fault .standard c s e) (hs : s.Reflects .standard read) :
    Diagnosis (OperatorTable.standard.visible read) (some c) e.kind e.token := by
  cases h with
  | secondPoint hc hp =>
    subst hc
    exact .secondPoint (hs.point_mem_run hp)
  | barePoint hp hc =>
    have hrun := hs.run_eq_point_iff.mpr hp
    rcases hc with rfl | ⟨rfl, hd⟩ | hacts
    · exact .opensPoint hrun
    · exact .closesPoint (hs.depth ▸ hd) hrun
    · exact .operatorPoint (OperatorTable.acts_standard_iff.mp hacts) hrun
  | closesNothing hc hd =>
    subst hc
    exact .closesNothing (hs.depth ▸ hd)
  | closesEmpty hc hd hp =>
    subst hc
    have hawaits : s.pending.awaitsOperand = true := hp ▸ rfl
    exact .closesEmpty (hs.depth ▸ hd)
      (hs.run_ne_point (Pending.ne_lonePoint_of_awaitsOperand hawaits)) (hs.last_of_leftBracket hp)
  | closesOwed hc hd hp =>
    subst hc
    obtain ⟨hrun, w, howing, hsymbol⟩ := hs.owing hp
    show Diagnosis _ _ .missingRight s.symbol
    rw [hsymbol]
    exact .closesOwed (hs.depth ▸ hd) hrun howing
  | onlySign hacts hbinary hpost hp =>
    -- no standard operator is only a sign
    have hsign : OperatorTable.standard.actsAsSign c = true := by
      simpa [OperatorTable.acts, hbinary, hpost] using hacts
    rw [OperatorTable.actsAsBinary_standard_of_actsAsSign hsign] at hbinary
    cases hbinary
  | noLeftOperand hsign hrole hp =>
    have hacts : OperatorTable.standard.acts c = true :=
      hrole.elim OperatorTable.acts_of_actsAsBinary OperatorTable.acts_of_actsAsPostfix
    exact .noLeftOperand (OperatorTable.acts_standard_iff.mp hacts)
      (hs.run_ne_point (Pending.ne_lonePoint_of_awaitsOperand hp))
  | unknown hr hacts hblank =>
    refine .unknown hr ?_ hblank
    rw [← OperatorTable.acts_standard_iff, hacts]
    exact Bool.false_ne_true

/-- What is owed at the end is told by the visible text. -/
theorem Owes.diagnosis (h : s.Owes e) (hs : s.Reflects .standard read) :
    Diagnosis (OperatorTable.standard.visible read) none e.kind e.token := by
  cases h with
  | digit hp => exact .endsPoint (hs.run_eq_point_iff.mpr hp)
  | operand hp =>
    obtain ⟨hrun, w, howing, hsymbol⟩ := hs.owing hp
    show Diagnosis _ _ .missingRight s.symbol
    rw [hsymbol]
    exact .endsOwed hrun howing
  | bracket hend hd hlog =>
    exact .endsOpen (hs.run_ne_point (Pending.ne_lonePoint_of_mayEnd hend)) (hs.not_owing hend)
      (hs.depth ▸ hd)

end Scanner

/-- **The text tells the error.** An expression that is refused can be read up to a place, and the
visible text before it, with the character at it, has the error as its only diagnosis. -/
theorem diagnosis_of_tokenize {expression : String} {e : SyntaxError}
    (h : tokenize .standard expression = .error e) :
    (∃ before after, Scanner.Stops .standard expression.toList before after) ∧
      ∀ before after, Scanner.Stops .standard expression.toList before after →
        ∀ kind token, Diagnosis (before.filter fun c => !Text.isBlank c) after.head? kind token ↔
          kind = e.kind ∧ token = e.token := by
  refine ⟨Scanner.exists_stops .standard expression.toList, ?_⟩
  intro before after hstops kind token
  obtain ⟨s, hs, hrefused⟩ := refused_of_tokenize h hstops
  have hreflects := Scanner.reflects_of_feed (Scanner.reflects_opening expression) hs
  -- the fault, or what is owed at the end, is a diagnosis; no other one holds
  have hdiagnosis : Diagnosis (before.filter fun c => !Text.isBlank c) after.head? e.kind
      e.token := by
    rw [← OperatorTable.visible_standard]
    cases after with
    | nil => exact Scanner.Owes.diagnosis hrefused hreflects
    | cons c rest => exact Scanner.Fault.diagnosis hrefused hreflects
  constructor
  · intro hother
    exact hother.unique hdiagnosis
  · rintro ⟨rfl, rfl⟩
    exact hdiagnosis

/-- In `( 5 .3 + )` the bracket cannot be read behind the plus sign, which waits for its operand. -/
theorem diagnosis_owing_plus :
    tokenize .standard "( 5 .3 + )" = .error (.missingRight "+" 8) ∧
      Scanner.Stops .standard "( 5 .3 + )".toList "( 5 .3 + ".toList [')'] ∧
      ∀ kind token, Diagnosis "(5.3+".toList (some ')') kind token ↔
        kind = .missingRight ∧ token = "+" := by
  have h : tokenize .standard "( 5 .3 + )" = .error (.missingRight "+" 8) := by decide +kernel
  have hstops : Scanner.Stops .standard "( 5 .3 + )".toList "( 5 .3 + ".toList [')'] := by
    refine ⟨rfl, ⟨_, rfl⟩, ?_⟩
    intro c hc
    cases hc
    exact ⟨_, _, rfl⟩
  exact ⟨h, hstops, (diagnosis_of_tokenize h).2 _ _ hstops⟩

end ExprLex
