import ExprLex.Proofs.Operator.Standard
import ExprLex.Proofs.Scanner.Agreement
import ExprLex.Proofs.Scanner.Progress
import ExprLex.Proofs.Scanner.Stage

/-!
# Tokens That Are Read as They Are Written

Tokens are written with blanks between them and read again with the standard operators. They come
back as they were, with nothing inserted, exactly if they are a valid stream of proper numbers in
which no operand follows another one at once. All streams that the scanner emits are of this
kind, whatever the table was.
-/

namespace ExprLex

/-- Every number among the tokens has decimal digits and at most one point, and at least one
digit. -/
def Numerals (tokens : List Token) : Prop :=
  ∀ symbol, .number symbol ∈ tokens → Text.IsNumeral symbol.toList

/-! ## The text of tokens -/

section Rendering

variable {separator : String} {token : Token} {tokens : List Token}

theorem Numerals.head (h : Numerals (token :: tokens)) : Numerals [token] := by
  intro symbol hmem
  obtain rfl : .number symbol = token := by simpa using hmem
  exact h symbol List.mem_cons_self

theorem Numerals.tail (h : Numerals (token :: tokens)) : Numerals tokens := by
  intro symbol hmem
  exact h symbol (List.mem_cons_of_mem token hmem)

theorem visible_symbol (h : Numerals [token]) :
    OperatorTable.standard.visible token.symbol.toList = token.symbol.toList := by
  have hvisible : ∀ c ∈ token.symbol.toList, Text.isBlank c = false := by
    intro c hc
    cases token with
    | number symbol =>
      have hnumeral := h symbol List.mem_cons_self
      exact Text.isBlank_of_isNumeric (hnumeral.1 c hc)
    | operator op =>
      obtain rfl : c = op.symbol := by simpa [Token.symbol] using hc
      exact OperatorTable.isBlank_symbol op
    | bracket side =>
      obtain rfl : c = side.symbol := by simpa [Token.symbol] using hc
      cases side <;> decide
  rw [OperatorTable.visible_standard]
  apply List.filter_eq_self.mpr
  intro c hc
  rw [hvisible c hc, Bool.not_false]

/-- Blanks between the tokens leave no trace in the visible text. -/
theorem visible_render (hseparator : ∀ c ∈ separator.toList, Text.isBlank c = true)
    (h : Numerals tokens) :
    OperatorTable.standard.visible (render separator tokens).toList =
      tokens.flatMap fun token => token.symbol.toList := by
  -- a separator has no visible text
  have hblank : OperatorTable.standard.visible separator.toList = [] := by
    apply OperatorTable.visible_eq_nil_iff.mpr
    intro c hc
    rw [OperatorTable.skips_standard]
    exact hseparator c hc
  induction tokens with
  | nil => simp [render]
  | cons token rest ih =>
    have hrest := ih h.tail
    have htoken := visible_symbol h.head
    cases rest with
    | nil => simpa [render] using htoken
    | cons next others =>
      have hrender : (render separator (token :: next :: others)).toList =
          token.symbol.toList ++ separator.toList ++
            (render separator (next :: others)).toList := by
        simp [render]
      rw [hrender, OperatorTable.visible_append, OperatorTable.visible_append, htoken, hblank,
        hrest, List.append_nil]
      rfl

end Rendering

/-! ## Numbers that are read -/

namespace Scanner

variable {table : OperatorTable} {s s' : Scanner} {c : Char} {p : Pending}

/-- The text of a number in progress is a number of the grammar. -/
theorem Spells.isNumeral {symbol text : String} (h : Spells table p symbol.toList)
    (hp : p ≠ .lonePoint) (htoken : draftToken? table symbol p = some (.number text)) :
    Text.IsNumeral text.toList := by
  have hoperator {found : Option Operator} :
      found.map Token.operator ≠ some (.number text) := by
    cases found <;> simp
  generalize hcs : symbol.toList = cs at h
  cases h with
  | integer hinteger =>
    cases htoken
    rw [hcs]
    exact hinteger.isNumeral
  | decimal hdecimal =>
    cases htoken
    rw [hcs]
    exact hdecimal.isNumeral
  | lonePoint => exact absurd rfl hp
  | empty | leftBracket | rightBracket => cases htoken
  | binary | sign | postfixOp => exact absurd htoken hoperator

/-- All numbers among the tokens are written as such, that in progress included. -/
theorem Staged.numerals_draft (hs : s.Staged table) (htokens : Numerals s.tokens.toList)
    (hp : s.pending ≠ .lonePoint) : Numerals (s.draft table) := by
  intro symbol hmem
  rcases List.mem_append.mp hmem with hmem | hmem
  · exact htokens symbol hmem
  · exact hs.spells.isNumeral hp (Option.mem_toList.mp hmem)

/-- Reading commits only numbers that are written as such. -/
theorem numerals_of_feed {cs : List Char} (hs : s.Staged table)
    (htokens : Numerals s.tokens.toList) (h : feed table cs s = .ok () s') :
    Numerals s'.tokens.toList := by
  have hinvariant : s'.Staged table ∧ Numerals s'.tokens.toList := by
    refine invariant_of_feed (fun _ s => s.Staged table ∧ Numerals s.tokens.toList) []
      ?_ ?_ ?_ ⟨hs, htokens⟩ h
    · -- a longer number is not finished yet
      intro _ s c p hs hext
      exact ⟨hs.1.extend hext, hs.2⟩
    · intro _ s c p hs hbegin
      refine ⟨hs.1.begun hbegin, ?_⟩
      intro symbol hmem
      rw [toList_tokens_begun hbegin.ne_lonePoint] at hmem
      rcases List.mem_append.mp hmem with hmem | hmem
      · exact hs.1.numerals_draft hs.2 hbegin.ne_lonePoint symbol hmem
      · -- a multiplication is no number
        split at hmem <;> simp at hmem
    · intro _ s hs
      exact ⟨hs.1.advance, hs.2⟩
  exact hinvariant.2

/-! ## Tokens one after the other -/

/-- The state is one in which the given tokens have been read, and nothing was inserted. -/
structure Holds (s : Scanner) (tokens : List Token) : Prop where
  staged : s.Staged .standard
  draft : s.draft .standard = tokens
  implicit : s.implicit.toList = []
  ne_lonePoint : s.pending ≠ .lonePoint

variable {tokens : List Token} {token : Token} {stage : Stage}

/-- At the start, no tokens have been written out. -/
theorem holds_opening (expression : String) : (opening expression).Holds [] :=
  ⟨staged_opening expression, rfl, rfl, fun hp => Pending.noConfusion hp⟩

/-- The scanner is in the stage that the tokens lead to. -/
theorem Holds.next? (hs : s.Holds tokens)
    (hstage : Stage.start.after? (tokens ++ [token]) = some stage) :
    ∃ depth : Nat, s.brackets.depth = depth ∧
      Stage.next? ⟨s.pending.endsOperand, depth⟩ token = some stage := by
  obtain ⟨depth, hdepth, hdraft⟩ := hs.staged.stage
  rw [hs.draft, Pending.awaitsOperand_eq_not_endsOperand hs.ne_lonePoint, Bool.not_not] at hdraft
  rw [Stage.after?_append_singleton, hdraft, Option.bind_some] at hstage
  exact ⟨depth, hdepth, hstage⟩

/-- A token that fits starts an operand exactly where one is awaited. -/
theorem Holds.startsOperand (hs : s.Holds tokens)
    (hstage : Stage.start.after? (tokens ++ [token]) = some stage) :
    token.startsOperand = !s.pending.endsOperand := by
  obtain ⟨depth, -, hnext⟩ := hs.next? hstage
  exact Stage.startsOperand_of_next? hnext

/-- A token of a single character is read where that character may stand and is no new factor. -/
theorem Holds.exists_feed_of_begins (hs : s.Holds tokens) (h : Begins .standard c s p)
    (hp : p ≠ .lonePoint) (hfactor : (s.pending.endsOperand && p.startsFactor) = false)
    (htoken : draftToken? .standard (String.singleton c) p = some token) :
    ∃ s', feed .standard [c] s = .ok () s' ∧ s'.Holds (tokens ++ [token]) := by
  refine ⟨_, feed_cons_of_begins h, (hs.staged.begun h).advance, ?_, ?_, ?_⟩
  · show (s.begun .standard c p).draft .standard = _
    rw [Scanner.draft, toList_tokens_begun hs.ne_lonePoint, hfactor, hs.draft, symbol_begun,
      pending_begun, htoken]
    simp
  · show (s.begun .standard c p).implicit.toList = _
    rw [toList_implicit_begun hs.ne_lonePoint, hfactor, hs.implicit]
    simp
  · show (s.begun .standard c p).pending ≠ _
    rwa [pending_begun]

/-- A number that fits behind the tokens can be read there, digit by digit. -/
theorem Holds.exists_feed_number (hs : s.Holds tokens) {symbol : String}
    (hsymbol : Text.IsNumeral symbol.toList)
    (hstage : Stage.start.after? (tokens ++ [.number symbol]) = some stage) :
    ∃ s', feed .standard symbol.toList s = .ok () s' ∧ s'.Holds (tokens ++ [.number symbol]) := by
  -- no operand has ended, so that nothing is inserted and no number is in progress
  have hends : s.pending.endsOperand = false := by
    simpa using hs.startsOperand hstage
  have hawaits : s.pending.awaitsOperand = true := by
    rw [Pending.awaitsOperand_eq_not_endsOperand hs.ne_lonePoint, hends]
    rfl
  have hnumber := Pending.isNumber_of_awaitsOperand hawaits
  obtain ⟨s', hfeed, hread⟩ := exists_feed_of_isNumeral hsymbol hnumber
  refine ⟨s', hfeed, staged_of_feed hs.staged hfeed, ?_, ?_, ?_⟩
  · have hpending : s'.pending.isNumber = true := by
      rcases hread.pending with hp | hp <;> rw [hp] <;> rfl
    rw [Scanner.draft, hread.tokens, hends, hs.draft, hread.symbol,
      draftToken?_of_isNumber hpending, String.ofList_toList]
    simp
  · rw [hread.implicit, hends, hs.implicit]
    simp
  · rcases hread.pending with hp | hp <;> rw [hp] <;> decide

/-- An operator that fits behind the tokens can be read there, in its own role. -/
theorem Holds.exists_feed_operator (hs : s.Holds tokens) {op : Operator}
    (hstage : Stage.start.after? (tokens ++ [.operator op]) = some stage) :
    ∃ s', feed .standard [op.symbol] s = .ok () s' ∧ s'.Holds (tokens ++ [.operator op]) := by
  -- a sign stands where no operand has ended, and any other operator where one has
  have hplace : op.isSign = !s.pending.endsOperand := hs.startsOperand hstage
  have hreserved := OperatorTable.isReserved_symbol op
  rcases op.isSign_or_isBinary_or_isPostfixOp with hrole | hrole | hrole
  · have hfound := OperatorTable.sign?_standard hrole
    have hawaits : s.pending.awaitsOperand = true := by
      rw [Pending.awaitsOperand_eq_not_endsOperand hs.ne_lonePoint, ← hplace, hrole]
    have hacts := OperatorTable.actsAsSign_iff.mpr ⟨hreserved, by rw [hfound]; rfl⟩
    apply hs.exists_feed_of_begins (.sign hacts hawaits) (by decide) (Bool.and_false _)
    show (OperatorTable.standard.sign? _).map Token.operator = _
    rw [hfound, Option.map_some]
  · have hfound := OperatorTable.binary?_standard hrole
    have hends : s.pending.endsOperand = true := by
      rw [Operator.isSign_of_isBinary hrole] at hplace
      simpa using hplace.symm
    have hpost := OperatorTable.postfixOp?_standard_of_isBinary hrole
    have hacts := OperatorTable.actsAsBinary_iff.mpr
      ⟨hreserved, by rw [hfound]; rfl, by rw [hpost]; rfl⟩
    apply hs.exists_feed_of_begins (.binary hacts hends) (by decide) (Bool.and_false _)
    show (OperatorTable.standard.binary? _).map Token.operator = _
    rw [hfound, Option.map_some]
  · have hfound := OperatorTable.postfixOp?_standard hrole
    have hends : s.pending.endsOperand = true := by
      rw [Operator.isSign_of_isPostfixOp hrole] at hplace
      simpa using hplace.symm
    have hacts := OperatorTable.actsAsPostfix_iff.mpr ⟨hreserved, by rw [hfound]; rfl⟩
    apply hs.exists_feed_of_begins (.postfixOp hacts hends) (by decide) (Bool.and_false _)
    show (OperatorTable.standard.postfixOp? _).map Token.operator = _
    rw [hfound, Option.map_some]

/-- A bracket that fits behind the tokens can be read there. -/
theorem Holds.exists_feed_bracket (hs : s.Holds tokens) {side : Bracket}
    (hstage : Stage.start.after? (tokens ++ [.bracket side]) = some stage) :
    ∃ s', feed .standard [side.symbol] s = .ok () s' ∧ s'.Holds (tokens ++ [.bracket side]) := by
  cases side with
  | left =>
    have hends : s.pending.endsOperand = false := by
      simpa using hs.startsOperand hstage
    apply hs.exists_feed_of_begins (.left rfl hs.ne_lonePoint) (by decide)
    · rw [hends, Bool.false_and]
    · rfl
  | right =>
    obtain ⟨depth, hdepth, hnext⟩ := hs.next? hstage
    rw [Stage.next?_right] at hnext
    split at hnext
    · rename_i hplace
      have hopen : s.brackets.depth ≠ 0 := by omega
      apply hs.exists_feed_of_begins (.right rfl hopen (.inl hplace.1)) (by decide)
        (Bool.and_false _)
      rfl
    · cases hnext

/-- Each token that fits behind the tokens can be read there, and nothing is inserted. -/
theorem Holds.exists_feed_token (hs : s.Holds tokens) (htoken : Numerals [token])
    (hstage : Stage.start.after? (tokens ++ [token]) = some stage) :
    ∃ s', feed .standard token.symbol.toList s = .ok () s' ∧ s'.Holds (tokens ++ [token]) := by
  cases token with
  | number symbol => exact hs.exists_feed_number (htoken symbol List.mem_cons_self) hstage
  | operator op => simpa [Token.symbol] using hs.exists_feed_operator hstage
  | bracket side => simpa [Token.symbol] using hs.exists_feed_bracket hstage

/-- Tokens that fit one behind the other can be read one behind the other. -/
theorem Holds.exists_feed {before : List Token} (hs : s.Holds before) (htokens : Numerals tokens)
    (hstage : Stage.start.after? (before ++ tokens) = some stage) :
    ∃ s', feed .standard (tokens.flatMap fun token => token.symbol.toList) s = .ok () s' ∧
      s'.Holds (before ++ tokens) := by
  -- induction on the tokens that are left, while those before them grow
  induction tokens generalizing before s with
  | nil => exact ⟨s, rfl, by simpa using hs⟩
  | cons token rest ih =>
    rw [List.append_cons] at hstage
    have hbefore := hstage
    rw [Stage.after?_append] at hbefore
    obtain ⟨middle, hmiddle, -⟩ := Option.bind_eq_some_iff.mp hbefore
    obtain ⟨read, hfirst, hread⟩ := hs.exists_feed_token htokens.head hmiddle
    obtain ⟨s', hrest, hs'⟩ := ih hread htokens.tail hstage
    refine ⟨s', ?_, ?_⟩
    · rw [List.flatMap_cons]
      exact feed_append_eq_ok_iff.mpr ⟨read, hfirst, hrest⟩
    · rw [List.append_cons]
      exact hs'

/-- Tokens that lead to the end are read as a complete expression. -/
theorem Holds.complete (hs : s.Holds tokens)
    (hstage : Stage.start.after? tokens = some ⟨true, 0⟩) : s.Complete := by
  obtain ⟨depth, hdepth, hdraft⟩ := hs.staged.stage
  rw [hs.draft, hstage, Option.some.injEq, Stage.mk.injEq] at hdraft
  obtain ⟨hended, hzero⟩ := hdraft
  have hawaits : s.pending.awaitsOperand = false := by
    simpa using hended.symm
  have hends := Pending.endsOperand_of_not_awaitsOperand hawaits hs.ne_lonePoint
  exact ⟨Pending.mayEnd_of_endsOperand hends, by omega⟩

end Scanner

/-- The numbers of an expression are written as numbers. -/
theorem numerals_of_tokenize {table : OperatorTable} {expression : String} {t : Tokenization}
    (h : tokenize table expression = .ok t) : Numerals t.tokens := by
  obtain ⟨s, hfeed, hcomplete, rfl⟩ := tokenize_eq_ok_iff_draft.mp h
  have hopening := @Scanner.staged_opening table expression
  have hnone : Numerals (Scanner.opening expression).tokens.toList := by
    intro symbol hmem
    cases hmem
  have hnumerals := Scanner.numerals_of_feed hopening hnone hfeed
  exact (Scanner.staged_of_feed hopening hfeed).numerals_draft hnumerals hcomplete.ne_lonePoint

/-- Proper numbers in a stream that gets through all stages are read as they are written. -/
theorem tokenize_render_of_stage {separator : String} {tokens : List Token}
    (hseparator : ∀ c ∈ separator.toList, Text.isBlank c = true) (hnumerals : Numerals tokens)
    (hstage : Stage.start.after? tokens = some ⟨true, 0⟩) :
    tokenize .standard (render separator tokens) = .ok ⟨tokens, []⟩ := by
  have hopening := Scanner.holds_opening (render separator tokens)
  obtain ⟨s, hfeed, hs⟩ := hopening.exists_feed hnumerals hstage
  apply tokenize_eq_ok_iff_visible.mpr
  refine ⟨s, ?_, hs.complete hstage, ?_⟩
  · rw [visible_render hseparator hnumerals]
    exact hfeed
  · rw [hs.draft, hs.implicit, List.nil_append]

/-- **Stable streams.** Tokens that are written with blanks between them are read as they were,
with nothing inserted, exactly if they are valid, their numbers are proper ones and no operand
follows another one at once. Whatever is read with any table is read again in the same way. -/
theorem tokenize_render_iff {separator : String}
    (hseparator : ∀ c ∈ separator.toList, Text.isBlank c = true) :
    (∀ {tokens : List Token}, tokens ≠ [] →
      (tokenize .standard (render separator tokens) = .ok ⟨tokens, []⟩ ↔
        validate tokens = .ok () ∧ Numerals tokens ∧ Apart tokens)) ∧
      ∀ {table : OperatorTable} {expression : String} {t : Tokenization},
        tokenize table expression = .ok t → t.tokens ≠ [] →
          tokenize .standard (render separator t.tokens) = .ok ⟨t.tokens, []⟩ := by
  refine ⟨?_, ?_⟩
  · intro tokens hne
    constructor
    · intro h
      -- what was tokenized passes every check on tokens
      have hnumerals := numerals_of_tokenize h
      rcases stage_of_tokenize h with ⟨-, hnil⟩ | ⟨-, hstage⟩
      · exact absurd hnil hne
      · obtain ⟨hvalid, hapart⟩ := (validate_and_apart_iff hne).mpr hstage
        exact ⟨hvalid, hnumerals, hapart⟩
    · intro h
      rcases h with ⟨hvalid, hnumerals, hapart⟩
      -- valid tokens that are apart lead through the stages, and can be read as they are written
      have hstage := (validate_and_apart_iff hne).mp ⟨hvalid, hapart⟩
      exact tokenize_render_of_stage hseparator hnumerals hstage
  · intro table expression t h hne
    rcases stage_of_tokenize h with ⟨-, hnil⟩ | ⟨-, hstage⟩
    · exact absurd hnil hne
    · exact tokenize_render_of_stage hseparator (numerals_of_tokenize h) hstage

/-- The multiplication that was inserted into `2(3)!` is there when it is read again. -/
theorem tokenize_render_two_three_factorial :
    tokenize .standard "2 * ( 3 ) !" = .ok ⟨[.number "2", .operator .multiplication,
        .bracket .left, .number "3", .bracket .right, .operator .factorial], []⟩ ∧
      validate [.number "2", .operator .multiplication, .bracket .left, .number "3",
        .bracket .right, .operator .factorial] = .ok () := by
  have hseparator : ∀ c ∈ " ".toList, Text.isBlank c = true := by
    intro c hc
    obtain rfl : c = ' ' := by simpa using hc
    decide
  have hread : tokenize .standard "2(3)!" = .ok ⟨[.number "2", .operator .multiplication,
      .bracket .left, .number "3", .bracket .right, .operator .factorial], [1]⟩ := by
    decide +kernel
  have hagain := (tokenize_render_iff hseparator).2 hread (List.cons_ne_nil _ _)
  exact ⟨hagain, ((tokenize_render_iff hseparator).1 (List.cons_ne_nil _ _)).mp hagain |>.1⟩

end ExprLex
