import ExprLex.Proofs.Scanner.Run

/-!
# Faults of an Expression

What a scanner refuses, and with which error. The relation `Fault` complements `Move`: it says what
can be wrong with a character in a state, and reading a character fails exactly along it
(`readChar_eq_error_iff`). Nothing that is refused changes the state, so that a run stops in the
state behind the characters before its first fault.
-/

namespace ExprLex

namespace Scanner

variable {table : OperatorTable} {c : Char} {s s' : Scanner} {e : SyntaxError}

/-! ## Single characters -/

/-- A character cannot be read in a state, for the reason that the error tells. -/
inductive Fault (table : OperatorTable) (c : Char) (s : Scanner) : SyntaxError → Prop where
  /-- A point in a number that has one. -/
  | secondPoint : c = '.' → s.pending = .decimal ∨ s.pending = .lonePoint →
      Fault table c s (.multiplePoints s.position)
  /-- Anything that ends a number which is only a point so far. -/
  | barePoint : s.pending = .lonePoint →
      c = '(' ∨ (c = ')' ∧ s.brackets.depth ≠ 0) ∨ table.acts c = true →
      Fault table c s (.trailingPoint (s.position - 1))
  /-- A right bracket where nothing is open. -/
  | closesNothing : c = ')' → s.brackets.depth = 0 →
      Fault table c s (.unmatchedRight s.position)
  /-- A right bracket right behind its left bracket. -/
  | closesEmpty : c = ')' → s.brackets.depth ≠ 0 → s.pending = .leftBracket →
      Fault table c s (.emptyBrackets s.position)
  /-- A right bracket behind an operator that waits for its operand. -/
  | closesOwed : c = ')' → s.brackets.depth ≠ 0 → s.pending = .sign ∨ s.pending = .binary →
      Fault table c s (.missingRight s.symbol (s.position - 1))
  /-- A character that is nothing but a sign, behind an operand. -/
  | onlySign : table.acts c = true → table.actsAsBinary c = false →
      table.actsAsPostfix c = false → s.pending.endsOperand = true →
      Fault table c s (.missingRight (String.singleton c) s.position)
  /-- An operator that is no sign, where an operand is awaited. -/
  | noLeftOperand : table.actsAsSign c = false →
      table.actsAsBinary c = true ∨ table.actsAsPostfix c = true →
      s.pending.awaitsOperand = true →
      Fault table c s (.missingLeft (String.singleton c) s.position)
  /-- A character without any meaning. -/
  | unknown : Text.isReserved c = false → table.acts c = false → Text.isBlank c = false →
      Fault table c s (.unknownSymbol (String.singleton c) s.position)

section Reading

private theorem fault_of_readPoint (h : readPoint table (String.singleton '.') s = .error e s') :
    s' = s ∧ Fault table '.' s e := by
  unfold readPoint at h
  cases hp : s.pending with
  | decimal => rw [hp] at h; cases h; exact ⟨rfl, .secondPoint rfl (.inl hp)⟩
  | lonePoint => rw [hp] at h; cases h; exact ⟨rfl, .secondPoint rfl (.inr hp)⟩
  | _ => rw [hp] at h; cases h

private theorem fault_of_readLeft (h : readLeft table (String.singleton '(') s = .error e s') :
    s' = s ∧ Fault table '(' s e := by
  unfold readLeft at h
  cases hp : s.pending with
  | lonePoint => rw [hp] at h; cases h; exact ⟨rfl, .barePoint hp (.inl rfl)⟩
  | _ => rw [hp] at h; cases h

private theorem fault_of_readRight (h : readRight table (String.singleton ')') s = .error e s') :
    s' = s ∧ Fault table ')' s e := by
  unfold readRight at h
  by_cases hd : s.brackets.depth = 0
  · rw [if_pos hd] at h
    cases h
    exact ⟨rfl, .closesNothing rfl hd⟩
  · rw [if_neg hd] at h
    cases hp : s.pending with
    | lonePoint => rw [hp] at h; cases h; exact ⟨rfl, .barePoint hp (.inr (.inl ⟨rfl, hd⟩))⟩
    | leftBracket => rw [hp] at h; cases h; exact ⟨rfl, .closesEmpty rfl hd hp⟩
    | sign => rw [hp] at h; cases h; exact ⟨rfl, .closesOwed rfl hd (.inl hp)⟩
    | binary => rw [hp] at h; cases h; exact ⟨rfl, .closesOwed rfl hd (.inr hp)⟩
    | _ => rw [hp] at h; cases h

/-- An operator is refused only where none of its roles fits. -/
private theorem fault_of_readOperator (hr : Text.isReserved c = false)
    (hop : table.isOperator (String.singleton c) = true)
    (h : readOperator table (String.singleton c) s = .error e s') :
    s' = s ∧ Fault table c s e := by
  have hacts : table.acts c = true := OperatorTable.acts_iff.mpr ⟨hr, hop⟩
  unfold readOperator at h
  split at h
  · rename_i hpoint
    cases h
    -- a point without digits stands before the operator
    exact ⟨rfl, .barePoint hpoint (.inr (.inr hacts))⟩
  rename_i hpoint
  split at h
  · cases h
  rename_i hsign
  split at h
  · -- the character has no role but that of a sign, so that an operand stands before it
    rename_i hnone
    rw [Bool.and_eq_true, Option.isNone_iff_eq_none, Option.isNone_iff_eq_none] at hnone
    cases h
    have hbinary : table.actsAsBinary c = false := by
      simp [OperatorTable.actsAsBinary, hnone.1]
    have hpost : table.actsAsPostfix c = false := by
      simp [OperatorTable.actsAsPostfix, hnone.2]
    have hs : table.actsAsSign c = true := by
      simpa [OperatorTable.acts, hbinary, hpost] using hacts
    rw [(OperatorTable.actsAsSign_iff.mp hs).2, Bool.true_and, Bool.not_eq_true] at hsign
    exact ⟨rfl, .onlySign hacts hbinary hpost
      (Pending.endsOperand_of_not_awaitsOperand hsign hpoint)⟩
  rename_i hsome
  split at h
  · rename_i hawaits
    cases h
    -- an operand is awaited, and the character is no sign
    rw [hawaits, Bool.and_true, Bool.not_eq_true] at hsign
    refine ⟨rfl, .noLeftOperand (by simp [OperatorTable.actsAsSign, hsign]) ?_ hawaits⟩
    cases hpost : table.actsAsPostfix c with
    | true => exact .inr rfl
    | false =>
      have hnone : (table.postfixOp? (String.singleton c)).isSome = false := by
        simpa [OperatorTable.actsAsPostfix, hr] using hpost
      rw [Option.isSome_eq_false_iff] at hnone
      rw [hnone, Bool.and_true, ← Option.not_isSome, Bool.not_not_eq] at hsome
      exact .inl (by simp [OperatorTable.actsAsBinary, hr, hpost, hsome])
  · split at h <;> cases h

/-- A character that is refused has a fault, and the state is left as it was. -/
private theorem fault_of_readChar (h : readChar table c s = .error e s') :
    s' = s ∧ Fault table c s e := by
  -- the classes in the order in which they are tried
  by_cases hdigit : Text.isDigit c = true
  · simp only [readChar, hdigit, if_true] at h
    unfold readDigit at h
    split at h <;> cases h
  by_cases hpoint : c = '.'
  · subst hpoint
    exact fault_of_readPoint h
  by_cases hleft : c = '('
  · subst hleft
    exact fault_of_readLeft h
  by_cases hright : c = ')'
  · subst hright
    exact fault_of_readRight h
  have hr : Text.isReserved c = false :=
    Text.isReserved_eq_false_iff.mpr ⟨by simpa using hdigit, hpoint, hleft, hright⟩
  by_cases hop : table.isOperator (String.singleton c) = true
  · simp only [readChar, hdigit, hpoint, hleft, hright, hop, if_true, if_false] at h
    exact fault_of_readOperator hr hop h
  by_cases hblank : Text.isBlank c = true
  · simp only [readChar, hdigit, hpoint, hleft, hright, hop, hblank, if_false] at h
    cases h
  · simp only [readChar, hdigit, hpoint, hleft, hright, hop, hblank, if_false] at h
    cases h
    refine ⟨rfl, .unknown hr ?_ (by simpa using hblank)⟩
    rw [← Bool.not_eq_true, OperatorTable.acts_iff]
    exact fun hacts => hop hacts.2

private theorem readOperator_of_lonePoint (hp : s.pending = .lonePoint) :
    readOperator table (String.singleton c) s = .error (.trailingPoint (s.position - 1)) s := by
  unfold readOperator
  rw [if_pos hp]

private theorem readOperator_of_onlySign (hbinary : table.binary? (String.singleton c) = none)
    (hpost : table.postfixOp? (String.singleton c) = none)
    (hp : s.pending.endsOperand = true) :
    readOperator table (String.singleton c) s =
      .error (.missingRight (String.singleton c) s.position) s := by
  have hpoint := Pending.ne_lonePoint_of_endsOperand hp
  have hawaits := Pending.awaitsOperand_of_endsOperand hp
  simp [readOperator, hpoint, hawaits, hbinary, hpost]

private theorem readOperator_of_awaitsOperand
    (hsign : table.sign? (String.singleton c) = none)
    (hrole : (table.binary? (String.singleton c)).isSome = true ∨
      (table.postfixOp? (String.singleton c)).isSome = true)
    (hp : s.pending.awaitsOperand = true) :
    readOperator table (String.singleton c) s =
      .error (.missingLeft (String.singleton c) s.position) s := by
  have hpoint := Pending.ne_lonePoint_of_awaitsOperand hp
  have hsome : ¬((table.binary? (String.singleton c)).isNone &&
      (table.postfixOp? (String.singleton c)).isNone) = true := by
    rcases hrole with h | h
    · simp [Option.isSome_iff_ne_none.mp h]
    · simp [Option.isSome_iff_ne_none.mp h]
  rw [readOperator, if_neg hpoint, if_neg (by simp [hsign]), if_neg hsome, if_pos hp]

/-- A character with a fault is refused with the error of the fault. -/
private theorem readChar_of_fault (h : Fault table c s e) : readChar table c s = .error e s := by
  cases h with
  | secondPoint hc hp =>
    -- the number in progress has a point, or is nothing but one
    subst hc
    show readPoint table (String.singleton '.') s = _
    rcases hp with hp | hp <;> simp only [readPoint, hp]
  | barePoint hp hc =>
    -- whatever ends the number, its lack of digits comes first
    rcases hc with rfl | ⟨rfl, hd⟩ | hacts
    · show readLeft table (String.singleton '(') s = _
      simp only [readLeft, hp]
    · show readRight table (String.singleton ')') s = _
      simp only [readRight, hd, hp, if_false]
    · obtain ⟨hr, hop⟩ := OperatorTable.acts_iff.mp hacts
      rw [readChar_eq_readOperator hr hop]
      exact readOperator_of_lonePoint hp
  | closesNothing hc hd =>
    subst hc
    show readRight table (String.singleton ')') s = _
    simp only [readRight, hd, if_true]
  | closesEmpty hc hd hp =>
    subst hc
    show readRight table (String.singleton ')') s = _
    simp only [readRight, hd, hp, if_false]
  | closesOwed hc hd hp =>
    subst hc
    show readRight table (String.singleton ')') s = _
    rcases hp with hp | hp <;> simp only [readRight, hd, hp, if_false]
  | onlySign hacts hbinary hpost hp =>
    obtain ⟨hr, hop⟩ := OperatorTable.acts_iff.mp hacts
    rw [readChar_eq_readOperator hr hop]
    -- the character has neither of the roles that it could have behind an operand
    have hpost' : table.postfixOp? (String.singleton c) = none := by
      simpa [OperatorTable.actsAsPostfix, hr] using hpost
    have hbinary' : table.binary? (String.singleton c) = none := by
      simpa [OperatorTable.actsAsBinary, hr, hpost] using hbinary
    exact readOperator_of_onlySign hbinary' hpost' hp
  | noLeftOperand hsign hrole hp =>
    have hacts : table.acts c = true :=
      hrole.elim OperatorTable.acts_of_actsAsBinary OperatorTable.acts_of_actsAsPostfix
    obtain ⟨hr, hop⟩ := OperatorTable.acts_iff.mp hacts
    rw [readChar_eq_readOperator hr hop]
    -- the character is no sign, so that only another role makes it an operator
    have hsign' : table.sign? (String.singleton c) = none := by
      simpa [OperatorTable.actsAsSign, hr] using hsign
    refine readOperator_of_awaitsOperand hsign' ?_ hp
    rcases hrole with h | h
    · exact .inl (OperatorTable.actsAsBinary_iff.mp h).2.1
    · exact .inr (OperatorTable.actsAsPostfix_iff.mp h).2
  | unknown hr hacts hblank =>
    -- all tests on the character fail, one after the other
    obtain ⟨hdigit, hpoint, hleft, hright⟩ := Text.isReserved_eq_false_iff.mp hr
    have hop : ¬table.isOperator (String.singleton c) = true := by
      intro hop
      rw [OperatorTable.acts_iff.mpr ⟨hr, hop⟩] at hacts
      cases hacts
    simp only [readChar, hdigit, hpoint, hleft, hright, hop, hblank, Bool.false_eq_true, if_false]
    rfl

/-- Reading a character fails exactly along the faults, and then changes nothing. -/
theorem readChar_eq_error_iff : readChar table c s = .error e s' ↔ s' = s ∧ Fault table c s e := by
  constructor
  · exact fault_of_readChar
  · rintro ⟨rfl, h⟩
    exact readChar_of_fault h

end Reading

/-! ## Characters one after the other -/

theorem feed_cons_of_fault {cs : List Char} (h : Fault table c s e) :
    feed table (c :: cs) s = .error e s := by
  simp only [feed, readChar_eq_error_iff.mpr ⟨rfl, h⟩]

/-- Reading fails at the first character with a fault, in the state behind those before it. -/
theorem feed_eq_error_iff {cs : List Char} :
    feed table cs s = .error e s' ↔
      ∃ before c after, cs = before ++ c :: after ∧ feed table before s = .ok () s' ∧
        Fault table c s' e := by
  constructor
  · -- induction on the characters: the first one either fails or can be put before the others
    intro h
    induction cs generalizing s with
    | nil => cases h
    | cons c rest ih =>
      rw [feed] at h
      cases hread : readChar table c s with
      | error e' failed =>
        rw [hread] at h
        cases h
        -- the first character is at fault
        obtain ⟨rfl, hfault⟩ := readChar_eq_error_iff.mp hread
        exact ⟨[], c, rest, rfl, rfl, hfault⟩
      | ok _ read =>
        rw [hread] at h
        obtain ⟨before, d, after, rfl, hfeed, hfault⟩ := ih h
        refine ⟨c :: before, d, after, rfl, ?_, hfault⟩
        exact feed_cons_eq_ok_iff.mpr ⟨read, readChar_eq_ok_iff.mp hread, hfeed⟩
  · rintro ⟨before, c, after, rfl, hfeed, hfault⟩
    rw [feed_append, hfeed]
    exact feed_cons_of_fault hfault

/-- A single character is refused exactly for its fault. -/
theorem feed_singleton_eq_error_iff :
    feed table [c] s = .error e s' ↔ s' = s ∧ Fault table c s e := by
  constructor
  · intro h
    obtain ⟨before, d, after, hcs, hfeed, hfault⟩ := feed_eq_error_iff.mp h
    -- there is nothing before the only character
    obtain ⟨rfl, rfl, -⟩ : before = [] ∧ c = d ∧ after = [] := by
      cases before with
      | nil => simpa using hcs
      | cons b before => simp at hcs
    cases hfeed
    exact ⟨rfl, hfault⟩
  · rintro ⟨rfl, hfault⟩
    exact feed_cons_of_fault hfault

end Scanner

end ExprLex
