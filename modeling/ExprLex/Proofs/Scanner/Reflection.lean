import ExprLex.Proofs.Scanner.Lexeme
import ExprLex.Proofs.Text.Brackets

/-!
# What a State Tells About the Text

Every state that a scanner reaches reflects the text that was read. The position is its length; the
lexeme in progress is what its visible text ends with; the depth is its balance of brackets; and the
log has its brackets at their places. So what a scanner does next is a function of the text.
-/

namespace ExprLex

namespace Scanner

variable {table : OperatorTable} {c d : Char} {s s' : Scanner} {p : Pending} {read : List Char}

/-- A state reflects the text that was read, blanks included. -/
structure Reflects (table : OperatorTable) (read : List Char) (s : Scanner) : Prop where
  position : s.position = read.length
  spells : Spells table s.pending s.symbol.toList
  last : (table.visible read).getLast? = s.symbol.toList.getLast?
  run : Text.run (table.visible read) = if s.pending.isNumber then s.symbol.toList else []
  depth : s.brackets.depth = Text.balance (table.visible read)
  log : s.brackets.entries.map (fun entry => (entry.bracket.symbol, entry.position)) =
    (Text.brackets read).map fun (c, i) => (c, (i : Int))

/-- At the start, the state reflects the empty text. -/
theorem reflects_opening (expression : String) : (opening expression).Reflects table [] :=
  ⟨rfl, .empty, rfl, rfl, rfl, rfl⟩

/-! ## Every move keeps the reflection -/

theorem visible_append_of_skips (h : table.skips c = true) :
    table.visible (read ++ [c]) = table.visible read := by
  rw [OperatorTable.visible_append, OperatorTable.visible_cons_of_skips h,
    OperatorTable.visible_nil, List.append_nil]

theorem visible_append_of_not_skips (h : table.skips c = false) :
    table.visible (read ++ [c]) = table.visible read ++ [c] := by
  rw [OperatorTable.visible_append, OperatorTable.visible_cons_of_not_skips h,
    OperatorTable.visible_nil]

theorem ne_bracket_of_isNumeric (h : Text.isNumeric c = true) : c ≠ '(' ∧ c ≠ ')' := by
  constructor
  · rintro rfl
    revert h
    decide
  · rintro rfl
    revert h
    decide

theorem ne_bracket_of_not_isReserved (h : Text.isReserved c = false) : c ≠ '(' ∧ c ≠ ')' :=
  ⟨(Text.isReserved_eq_false_iff.mp h).2.2.1, (Text.isReserved_eq_false_iff.mp h).2.2.2⟩

/-- The lexeme that begins is a number exactly if its first character is a digit or a point. -/
theorem Begins.isNumber_eq (h : Begins table c s p) : p.isNumber = Text.isNumeric c := by
  cases hp : p.isNumber with
  | true => exact (h.spells.isNumeric hp c List.mem_cons_self).symm
  | false => exact (h.spells.not_isNumeric hp c List.mem_cons_self).symm

/-- A lexeme is logged exactly if it is a bracket. -/
theorem Begins.bracket (h : Begins table c s p) :
    (c = '(' ∧ p = .leftBracket) ∨ (c = ')' ∧ p = .rightBracket) ∨
      ((c ≠ '(' ∧ c ≠ ')') ∧ ∀ position log, p.logged position log = log) := by
  cases h with
  | digit hc =>
    exact .inr (.inr
      ⟨ne_bracket_of_isNumeric (Text.isNumeric_of_isDigit hc), fun _ _ => rfl⟩)
  | point hc => exact .inr (.inr ⟨ne_bracket_of_isNumeric (hc ▸ rfl), fun _ _ => rfl⟩)
  | left hc => exact .inl ⟨hc, rfl⟩
  | right hc => exact .inr (.inl ⟨hc, rfl⟩)
  | sign hc =>
    exact .inr (.inr
      ⟨ne_bracket_of_not_isReserved (OperatorTable.actsAsSign_iff.mp hc).1, fun _ _ => rfl⟩)
  | binary hc =>
    exact .inr (.inr
      ⟨ne_bracket_of_not_isReserved (OperatorTable.actsAsBinary_iff.mp hc).1, fun _ _ => rfl⟩)
  | postfixOp hc =>
    exact .inr (.inr
      ⟨ne_bracket_of_not_isReserved (OperatorTable.actsAsPostfix_iff.mp hc).1, fun _ _ => rfl⟩)

theorem Reflects.position_advance (hs : s.Reflects table read) (hp : s'.position = s.position) :
    s'.advance.position = ((read ++ [c]).length : Int) := by
  show s'.position + 1 = _
  rw [hp, hs.position, List.length_append]
  rfl

/-- A character that is passed over changes only the position. -/
theorem Reflects.skip (hs : s.Reflects table read) (h : table.skips c = true) :
    s.advance.Reflects table (read ++ [c]) where
  position := hs.position_advance rfl
  spells := hs.spells
  last := by
    rw [visible_append_of_skips h]
    exact hs.last
  run := by
    rw [visible_append_of_skips h]
    exact hs.run
  depth := by
    rw [visible_append_of_skips h]
    exact hs.depth
  log := by
    obtain ⟨hleft, hright⟩ := ne_bracket_of_not_isReserved (OperatorTable.isReserved_of_skips h)
    rw [Text.brackets_append_other hleft hright]
    exact hs.log

/-- A digit or a point in a number comes behind the last visible character and the number in
progress. -/
theorem Reflects.extend (hs : s.Reflects table read) (h : Extends c s.pending p) :
    (s.extend (String.singleton c) p).advance.Reflects table (read ++ [c]) where
  position := hs.position_advance rfl
  spells := by
    rw [pending_advance, pending_extend]
    show Spells table p (s.extend (String.singleton c) p).symbol.toList
    rw [toList_symbol_extend]
    exact h.spells hs.spells
  last := by
    show _ = (s.extend (String.singleton c) p).symbol.toList.getLast?
    rw [visible_append_of_not_skips h.not_skips, toList_symbol_extend, List.getLast?_concat,
      List.getLast?_concat]
  run := by
    show _ = if p.isNumber then (s.extend (String.singleton c) p).symbol.toList else []
    rw [visible_append_of_not_skips h.not_skips, Text.run_append_of_isNumeric h.isNumeric, hs.run,
      if_pos h.isNumber, if_pos h.isNumber_right, toList_symbol_extend]
  depth := by
    -- digits and points are no brackets
    obtain ⟨hleft, hright⟩ := ne_bracket_of_isNumeric h.isNumeric
    rw [visible_append_of_not_skips h.not_skips, Text.balance_append_other hleft hright]
    exact hs.depth
  log := by
    obtain ⟨hleft, hright⟩ := ne_bracket_of_isNumeric h.isNumeric
    rw [Text.brackets_append_other hleft hright]
    exact hs.log

/-- A lexeme that begins is the last visible character, and it is logged if it is a bracket. -/
theorem Reflects.begun (hs : s.Reflects table read) (h : Begins table c s p) :
    (s.begun table c p).advance.Reflects table (read ++ [c]) where
  position := hs.position_advance position_begun
  spells := by
    show Spells table (s.begun table c p).pending (s.begun table c p).symbol.toList
    rw [pending_begun, symbol_begun, String.toList_singleton]
    exact h.spells
  last := by
    show _ = (s.begun table c p).symbol.toList.getLast?
    rw [visible_append_of_not_skips h.not_skips, symbol_begun, String.toList_singleton,
      List.getLast?_concat]
    rfl
  run := by
    show _ = if (s.begun table c p).pending.isNumber then (s.begun table c p).symbol.toList else []
    rw [visible_append_of_not_skips h.not_skips, pending_begun, symbol_begun,
      String.toList_singleton, h.isNumber_eq]
    cases hc : Text.isNumeric c with
    | true =>
      -- no number was in progress that could have taken the character up
      rw [Text.run_append_of_isNumeric hc, hs.run, h.isNumber_of_isNumeric hc]
      rfl
    | false =>
      rw [Text.run_append_of_not_isNumeric hc]
      rfl
  depth := by
    show (s.begun table c p).brackets.depth = _
    rw [visible_append_of_not_skips h.not_skips, brackets_begun]
    rcases h.bracket with ⟨rfl, rfl⟩ | ⟨rfl, rfl⟩ | ⟨⟨hleft, hright⟩, hlogged⟩
    · rw [Text.balance_append_left, ← hs.depth]
      rfl
    · rw [Text.balance_append_right, ← hs.depth]
      rfl
    · rw [Text.balance_append_other hleft hright, hlogged]
      exact hs.depth
  log := by
    show (s.begun table c p).brackets.entries.map _ = _
    rw [brackets_begun]
    rcases h.bracket with ⟨rfl, rfl⟩ | ⟨rfl, rfl⟩ | ⟨⟨hleft, hright⟩, hlogged⟩
    · rw [Text.brackets_append_bracket (.inl rfl), List.map_append, ← hs.log, Pending.logged,
        BracketLog.entries_opened, List.map_append, hs.position]
      rfl
    · rw [Text.brackets_append_bracket (.inr rfl), List.map_append, ← hs.log, Pending.logged,
        BracketLog.entries_closed, List.map_append, hs.position]
      rfl
    · rw [Text.brackets_append_other hleft hright, hlogged]
      exact hs.log

/-- Each move keeps up what the state tells about the text. -/
theorem Reflects.move (hs : s.Reflects table read) (h : Move table c s s') :
    s'.advance.Reflects table (read ++ [c]) := by
  cases h with
  | skipped hskip => exact hs.skip hskip
  | extended hext => exact hs.extend hext
  | begun hbegin => exact hs.begun hbegin

/-- **Every state that is reached reflects the text that was read.** -/
theorem reflects_of_feed {cs : List Char} (hs : s.Reflects table [])
    (h : feed table cs s = .ok () s') : s'.Reflects table cs :=
  invariant_of_moves (fun read s => s.Reflects table read) [] Reflects.move hs h

/-! ## The last bracket -/

/-- The newest bracket of the log is the last one of the text. -/
theorem Reflects.getLast?_brackets {entry : BracketEntry} {older : List BracketEntry}
    (hs : s.Reflects table read) (hlog : s.brackets.newestFirst = entry :: older) :
    ∃ i : Nat, (Text.brackets read).getLast? = some (entry.bracket.symbol, i) ∧
      entry.position = i := by
  have hlast := congrArg List.getLast? hs.log
  rw [List.getLast?_map, List.getLast?_map, BracketLog.entries, hlog, List.getLast?_reverse,
    List.head?_cons, Option.map_some, eq_comm, Option.map_eq_some_iff] at hlast
  obtain ⟨⟨c, i⟩, hmem, hsame⟩ := hlast
  obtain ⟨hsymbol, hposition⟩ := Prod.mk.inj hsame
  exact ⟨i, hsymbol ▸ hmem, hposition.symm⟩

/-! ## The lexeme in progress, by the text -/

theorem Spells.eq_lonePoint (h : Spells table p ['.']) (hp : p.isNumber = true) :
    p = .lonePoint := by
  have hdigit : Text.isDigit '.' = false := by decide
  generalize hcs : ['.'] = cs at h
  cases h with
  | lonePoint => rfl
  | integer hcs' =>
    subst hcs
    rw [hcs'.2 '.' List.mem_cons_self] at hdigit
    cases hdigit
  | decimal hcs' =>
    -- a point alone has no digit on either side
    subst hcs
    obtain ⟨-, -, digit, hmem, hisDigit⟩ := hcs'.isNumeral
    rw [List.mem_singleton.mp hmem, hdigit] at hisDigit
    cases hisDigit
  | _ => cases hp

theorem Spells.eq_point {cs : List Char} (h : Spells table .lonePoint cs) : cs = ['.'] := by
  cases h
  rfl

theorem Spells.eq_leftBracket {cs : List Char} (h : Spells table .leftBracket cs) :
    cs = ['('] := by
  cases h
  rfl

theorem Spells.point_mem {cs : List Char} (h : Spells table .decimal cs) : '.' ∈ cs := by
  cases h with
  | decimal hcs =>
    obtain ⟨whole, fraction, rfl, -⟩ := hcs
    simp

/-- A number that is only a point so far is seen in the text. -/
theorem Reflects.run_eq_point_iff (hs : s.Reflects table read) :
    Text.run (table.visible read) = ['.'] ↔ s.pending = .lonePoint := by
  have hspells := hs.spells
  rw [hs.run]
  constructor
  · intro h
    cases hp : s.pending.isNumber with
    | false =>
      rw [hp] at h
      cases h
    | true =>
      rw [hp, if_pos rfl] at h
      rw [h] at hspells
      -- a number that is spelled by a point has no digits
      exact hspells.eq_lonePoint hp
  · intro h
    rw [h] at hspells
    rw [h, hspells.eq_point]
    rfl

/-- A number with a point is seen in the text. -/
theorem Reflects.point_mem_run (hs : s.Reflects table read)
    (hp : s.pending = .decimal ∨ s.pending = .lonePoint) :
    '.' ∈ Text.run (table.visible read) := by
  have hspells := hs.spells
  rw [hs.run]
  rcases hp with hp | hp
  · rw [hp] at hspells ⊢
    exact hspells.point_mem
  · rw [hp] at hspells ⊢
    rw [hspells.eq_point]
    exact List.mem_singleton_self '.'

theorem Reflects.last_of_lonePoint (hs : s.Reflects table read) (hp : s.pending = .lonePoint) :
    (table.visible read).getLast? = some '.' := by
  have hspells := hs.spells
  rw [hp] at hspells
  rw [hs.last, hspells.eq_point]
  rfl

theorem Reflects.last_of_leftBracket (hs : s.Reflects table read) (hp : s.pending = .leftBracket) :
    (table.visible read).getLast? = some '(' := by
  have hspells := hs.spells
  rw [hp] at hspells
  rw [hs.last, hspells.eq_leftBracket]
  rfl

/-- An operator that waits for its operand is the last visible character. -/
theorem Reflects.last_of_owed (hs : s.Reflects table read)
    (hp : s.pending = .sign ∨ s.pending = .binary) :
    ∃ w, (table.visible read).getLast? = some w ∧ s.symbol = String.singleton w ∧
      (table.actsAsSign w = true ∨ table.actsAsBinary w = true) := by
  have hspells := hs.spells
  rw [hs.last]
  generalize hcs : s.symbol.toList = cs at hspells
  rcases hp with hp | hp
  · rw [hp] at hspells
    cases hspells with
    | @sign w hw => exact ⟨w, rfl, OperatorTable.eq_singleton hcs, .inl hw⟩
  · rw [hp] at hspells
    cases hspells with
    | @binary w hw => exact ⟨w, rfl, OperatorTable.eq_singleton hcs, .inr hw⟩

end Scanner

end ExprLex
