import ExprLex.Proofs.Grammar.Derivation
import ExprLex.Proofs.Scanner.Stage

/-!
# What Is Read Is Derivable

Every state that the scanner reaches stands for an unfinished derivation. The text since the last
bracket that is still open awaits an operand, ends one, or ends with a number, as the lexeme in
progress tells; and each open bracket stands where a group may begin.
-/

namespace ExprLex

namespace Scanner

variable {table : OperatorTable} {s s' : Scanner} {c : Char} {p q : Pending}
  {symbol text outer read : List Char}

/-! ## One level of brackets -/

/-- What the text of a level is good for, by the kind of its last lexeme. -/
inductive Level (table : OperatorTable) (p : Pending) (symbol : List Char) :
    List Char → Prop where
  /-- An operand is awaited, as the lexeme says. -/
  | awaiting {text : List Char} :
      p.awaitsOperand = true → Awaits table text → Level table p symbol text
  /-- A number is in progress where one can stand. -/
  | counting {before : List Char} :
      p.isNumber = true → TakesNumber table before → Level table p symbol (before ++ symbol)
  /-- An operand ends with a bracket or with an operator behind it. -/
  | closing {text : List Char} :
      p.closesOperand = true → (∃ c ∈ text.getLast?, c = ')' ∨ table.actsAsPostfix c = true) →
      Ended table text → Level table p symbol text

theorem Level.awaits (h : Level table p symbol text) (hp : p.awaitsOperand = true) :
    Awaits table text := by
  cases h with
  | awaiting _ htext => exact htext
  | counting hnumber => rw [Pending.awaitsOperand_of_isNumber hnumber] at hp; cases hp
  | closing hcloses =>
    have hends := Pending.endsOperand_of_closesOperand hcloses
    rw [Pending.awaitsOperand_of_endsOperand hends] at hp
    cases hp

theorem Level.ended (h : Level table p symbol text) (hspells : Spells table p symbol)
    (hp : p.endsOperand = true) : Ended table text := by
  cases h with
  | awaiting hawaits => rw [Pending.awaitsOperand_of_endsOperand hp] at hawaits; cases hawaits
  | counting hnumber hbefore =>
    cases hspells with
    | integer hsymbol => exact hbefore (.inl hsymbol)
    | decimal hsymbol => exact hbefore (.inr hsymbol)
    | lonePoint => cases hp
    | _ => cases hnumber
  | closing _ _ htext => exact htext

/-- A number can begin behind any lexeme that is not a number itself. -/
theorem Level.takesNumber (h : Level table p symbol text) (hp : p.isNumber = false) :
    TakesNumber table text := by
  cases h with
  | awaiting _ htext => exact htext.takesNumber
  | counting hnumber => rw [hp] at hnumber; cases hnumber
  | closing _ hlast htext => exact htext.takesNumber hlast

/-- A group can begin behind any lexeme but a point without digits. -/
theorem Level.takesGroup (h : Level table p symbol text) (hspells : Spells table p symbol)
    (hp : p ≠ .lonePoint) : TakesGroup table text := by
  cases hawaits : p.awaitsOperand with
  | true => exact (h.awaits hawaits).takesGroup
  | false =>
    have hends := Pending.endsOperand_of_not_awaitsOperand hawaits hp
    exact (h.ended hspells hends).takesGroup

/-! ## All levels -/

/-- The text up to the last bracket that is still open, by the number of open brackets. -/
inductive Nested (table : OperatorTable) : Nat → List Char → Prop where
  /-- No bracket is open. -/
  | outside : Nested table 0 []
  /-- One more bracket is opened where a group can stand. -/
  | inside {depth : Nat} {outer before : List Char} :
      Nested table depth outer → TakesGroup table before →
      Nested table (depth + 1) (outer ++ before ++ ['('])

/-- The text that has been read stands for an unfinished derivation. -/
structure Parsed (table : OperatorTable) (read : List Char) (s : Scanner) : Prop where
  staged : s.Staged table
  levels : ∃ depth outer text, read = outer ++ text ∧ s.brackets.depth = (depth : Nat) ∧
    Nested table depth outer ∧ Level table s.pending s.symbol.toList text

/-- At the start, nothing has been parsed and no bracket is open. -/
theorem parsed_opening (expression : String) : (opening expression).Parsed table [] where
  staged := staged_opening expression
  levels := ⟨0, [], [], rfl, rfl, .outside, .awaiting rfl awaits_nil⟩

theorem Parsed.advance (hs : s.Parsed table read) : s.advance.Parsed table read :=
  ⟨hs.staged.advance, hs.levels⟩

/-- A number that becomes longer stands where it stood. -/
theorem Parsed.extend (hs : s.Parsed table read) (h : Extends c s.pending p) :
    (s.extend (String.singleton c) p).Parsed table (read ++ [c]) where
  staged := hs.staged.extend h
  levels := by
    obtain ⟨depth, outer, text, rfl, hdepth, hnested, hlevel⟩ := hs.levels
    refine ⟨depth, outer, text ++ [c], by simp, hdepth, hnested, ?_⟩
    rw [pending_extend, toList_symbol_extend]
    -- only a number is extended, so that the level is one that ends with a number
    have hnumber := h.isNumber
    cases hlevel with
    | awaiting hawaits =>
      rw [Pending.awaitsOperand_of_isNumber hnumber] at hawaits
      cases hawaits
    | @counting before _ hbefore =>
      rw [List.append_assoc]
      exact .counting h.isNumber_right hbefore
    | closing hcloses =>
      rw [Pending.isNumber_of_closesOperand hcloses] at hnumber
      cases hnumber

/-- A lexeme that is no bracket extends the innermost level, if it can stand there. -/
private theorem Parsed.begun_of_level (hs : s.Parsed table read) (h : Begins table c s p)
    (hbrackets : p.logged s.position s.brackets = s.brackets)
    (hlevel : ∀ text, Level table s.pending s.symbol.toList text →
      Level table p [c] (text ++ [c])) :
    (s.begun table c p).Parsed table (read ++ [c]) where
  staged := hs.staged.begun h
  levels := by
    obtain ⟨depth, outer, text, rfl, hdepth, hnested, htext⟩ := hs.levels
    refine ⟨depth, outer, text ++ [c], by simp, ?_, hnested, ?_⟩
    · rw [brackets_begun, hbrackets, hdepth]
    · rw [pending_begun, symbol_begun, String.toList_singleton]
      exact hlevel text htext

/-- A left bracket opens a level of its own and sets the text before it aside. -/
private theorem Parsed.begun_left (hs : s.Parsed table read)
    (h : Begins table '(' s .leftBracket) :
    (s.begun table '(' .leftBracket).Parsed table (read ++ ['(']) where
  staged := hs.staged.begun h
  levels := by
    obtain ⟨depth, outer, text, rfl, hdepth, hnested, hlevel⟩ := hs.levels
    have hgroup := hlevel.takesGroup hs.staged.spells h.ne_lonePoint
    refine ⟨depth + 1, outer ++ text ++ ['('], [], by simp, ?_, .inside hnested hgroup, ?_⟩
    · rw [brackets_begun, Pending.depth_logged_eq_depthAfter hdepth (by simp)]
      rfl
    · rw [pending_begun]
      exact .awaiting rfl awaits_nil

/-- A right bracket makes the innermost level a group of the level around it. -/
private theorem Parsed.begun_right (hs : s.Parsed table read)
    (h : Begins table ')' s .rightBracket) (hopen : s.brackets.depth ≠ 0)
    (hp : s.pending.endsOperand = true) :
    (s.begun table ')' .rightBracket).Parsed table (read ++ [')']) where
  staged := hs.staged.begun h
  levels := by
    obtain ⟨depth, outer, text, rfl, hdepth, hnested, hlevel⟩ := hs.levels
    -- the level that is closed becomes an operand of the level around it
    cases hnested with
    | outside => exact absurd hdepth hopen
    | @inside depth outer before hnested hgroup =>
      have hinner := (hlevel.ended hs.staged.spells hp).expression
      refine ⟨depth, outer, before ++ ('(' :: text ++ [')']), by simp, ?_, hnested, ?_⟩
      · have hne : Pending.rightBracket = .rightBracket → depth + 1 ≠ 0 := by simp
        rw [brackets_begun, Pending.depth_logged_eq_depthAfter hdepth hne]
        rfl
      · have hlast : (before ++ ('(' :: text ++ [')'])).getLast? = some ')' := by
          rw [← List.append_assoc, List.getLast?_concat]
        rw [pending_begun]
        exact .closing rfl ⟨')', hlast, .inl rfl⟩ (hgroup hinner)

/-- Every lexeme that begins keeps up the reading of the text by the grammar. -/
theorem Parsed.begun (hs : s.Parsed table read) (h : Begins table c s p) :
    (s.begun table c p).Parsed table (read ++ [c]) := by
  have hspells := hs.staged.spells
  cases h with
  | digit hc hn =>
    apply hs.begun_of_level (.digit hc hn) rfl
    intro text htext
    exact .counting rfl (htext.takesNumber hn)
  | point hc hn =>
    apply hs.begun_of_level (.point hc hn) rfl
    intro text htext
    exact .counting rfl (htext.takesNumber hn)
  | left hc hn =>
    subst hc
    exact hs.begun_left (.left rfl hn)
  | right hc hopen hp =>
    subst hc
    rcases hp with hends | hempty
    · exact hs.begun_right (.right rfl hopen (.inl hends)) hopen hends
    · -- nothing has been read, so that nothing is open
      exact absurd (hs.staged.depth_of_empty hempty) hopen
  | sign hc hp =>
    apply hs.begun_of_level (.sign hc hp) rfl
    intro text htext
    -- the level still awaits its operand behind the sign
    exact .awaiting rfl ((htext.awaits hp).sign hc)
  | binary hc hp =>
    apply hs.begun_of_level (.binary hc hp) rfl
    intro text htext
    -- the level awaits another operand behind the operator
    exact .awaiting rfl ((htext.ended hspells hp).binary hc)
  | postfixOp hc hp =>
    apply hs.begun_of_level (.postfixOp hc hp) rfl
    intro text htext
    -- the operand of the level ends once more
    exact .closing rfl ⟨c, by simp, .inr hc⟩ ((htext.ended hspells hp).postfixOp hc)

/-- **Every state that is reached is parsed.** -/
theorem parsed_of_feed {cs : List Char} (hs : s.Parsed table [])
    (h : feed table cs s = .ok () s') : s'.Parsed table (table.visible cs) := by
  have hparsed := invariant_of_feed (fun read s => s.Parsed table read) [] Parsed.extend
    Parsed.begun Parsed.advance hs h
  simpa using hparsed

/-- A complete text with at least one lexeme is an expression of the grammar. -/
theorem Parsed.derives_of_complete (hs : s.Parsed table read) (hcomplete : s.Complete)
    (hne : s.pending ≠ .empty) : Derives table .expression read := by
  obtain ⟨depth, outer, text, rfl, hdepth, hnested, hlevel⟩ := hs.levels
  -- with nothing open, there is only one level
  have hclosed := hcomplete.depth_le
  cases hnested with
  | inside => omega
  | outside =>
    have hends := hs.staged.endsOperand_of_complete hcomplete hne
    exact (hlevel.ended hs.staged.spells hends).expression

end Scanner

/-- **Soundness.** The visible text of an accepted expression is derivable if there is any. -/
theorem derives_of_tokenize {table : OperatorTable} {expression : String} {t : Tokenization}
    (h : tokenize table expression = .ok t) :
    table.visible expression.toList = [] ∨
      Derives table .expression (table.visible expression.toList) := by
  obtain ⟨s, hfeed, hcomplete, -⟩ := tokenize_eq_ok_iff_draft.mp h
  have hs := Scanner.parsed_of_feed (Scanner.parsed_opening expression) hfeed
  by_cases hp : s.pending = .empty
  · exact .inl ((Scanner.pending_eq_empty_iff_of_feed rfl hfeed).mp hp)
  · exact .inr (hs.derives_of_complete hcomplete hp)

end ExprLex
