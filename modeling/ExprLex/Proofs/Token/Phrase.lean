import ExprLex.Proofs.Grammar.Derivation
import ExprLex.Proofs.Token.Stage

/-!
# Phrases of Tokens

A stream of tokens is an expression if it is derived from the grammar

    expression ::= item (binary item)*
    item       ::= (plus | minus)* primary factorial*
    primary    ::= number | "(" expression ")"

where `binary` is one of the five operators between two operands. A number may be any text here, and
factors side by side are no expression. The stages of a stream know no more than whether an operand
has just ended and how many brackets are open, and recognise the grammar all the same
(`after?_eq_iff_isPhrase`).
-/

namespace ExprLex

namespace Operator

variable {op : Operator}

theorem isSign_iff : op.isSign = true ↔ op = .plus ∨ op = .minus := by
  cases op <;> decide

theorem isPostfixOp_iff : op.isPostfixOp = true ↔ op = .factorial := by
  cases op <;> decide

theorem isBinary_iff :
    op.isBinary = true ↔ op ∈ [addition, subtraction, multiplication, division, power] := by
  cases op <;> decide

end Operator

/-- Tokens are a phrase of the grammar. -/
inductive IsPhrase : Phrase → List Token → Prop where
  /-- The rule `primary ::= number`. -/
  | number (symbol : String) : IsPhrase .primary [.number symbol]
  /-- The rule `primary ::= "(" expression ")"`. -/
  | group {tokens : List Token} : IsPhrase .expression tokens →
      IsPhrase .primary (.bracket .left :: tokens ++ [.bracket .right])
  /-- The rule `item ::= (plus | minus)* primary factorial*`. -/
  | item {signs tokens posts : List Token} :
      (∀ token ∈ signs, token = .operator .plus ∨ token = .operator .minus) →
      IsPhrase .primary tokens → (∀ token ∈ posts, token = .operator .factorial) →
      IsPhrase .item (signs ++ tokens ++ posts)
  /-- The rule `expression ::= item`. -/
  | single {tokens : List Token} : IsPhrase .item tokens → IsPhrase .expression tokens
  /-- The rule `expression ::= expression binary item`. -/
  | binary {before tokens : List Token} {op : Operator} : IsPhrase .expression before →
      op ∈ [Operator.addition, .subtraction, .multiplication, .division, .power] →
      IsPhrase .item tokens → IsPhrase .expression (before ++ .operator op :: tokens)

namespace Stage

variable {stage stage' : Stage} {tokens read : List Token} {token : Token} {depth : Nat}

/-! ## Phrases get through all stages -/

/-- Tokens that each leave the stage as it is do so together. -/
theorem after?_of_forall_next? (h : ∀ token ∈ tokens, stage.next? token = some stage) :
    stage.after? tokens = some stage := by
  induction tokens with
  | nil => rfl
  | cons token rest ih =>
    rw [after?_cons, h token List.mem_cons_self, Option.bind_some]
    exact ih fun token hmem => h token (List.mem_cons_of_mem _ hmem)

/-- A phrase is an operand, and all brackets in it are closed. -/
theorem after?_of_isPhrase {phrase : Phrase} (h : IsPhrase phrase tokens) :
    after? ⟨false, depth⟩ tokens = some ⟨true, depth⟩ := by
  -- induction on the derivation, for all depths
  induction h generalizing depth with
  | number => rfl
  | group _ ih =>
    have hopened : next? ⟨false, depth⟩ (.bracket .left) = some ⟨false, depth + 1⟩ := rfl
    have hclosed : next? ⟨true, depth + 1⟩ (.bracket .right) = some ⟨true, depth⟩ := rfl
    rw [List.cons_append, after?_cons, hopened, Option.bind_some, after?_append_singleton, ih,
      Option.bind_some, hclosed]
  | item hsigns _ hposts ih =>
    have hfirst : after? ⟨false, depth⟩ _ = some ⟨false, depth⟩ :=
      after?_of_forall_next? fun token hmem => by
        rcases hsigns token hmem with rfl | rfl <;> rfl
    have hlast : after? ⟨true, depth⟩ _ = some ⟨true, depth⟩ :=
      after?_of_forall_next? fun token hmem => by
        rw [hposts token hmem]
        rfl
    rw [after?_append, after?_append, hfirst, Option.bind_some, ih, Option.bind_some, hlast]
  | single _ ih => exact ih
  | binary _ hop _ ihbefore ih =>
    have hbinary := Operator.isBinary_iff.mpr hop
    rw [after?_append, ihbefore, Option.bind_some, after?_cons, next?_operator,
      Operator.isSign_of_isBinary hbinary, Operator.isPostfixOp_of_isBinary hbinary,
      if_neg (by decide), Option.bind_some, ih]

/-! ## What gets through all stages is a phrase

The tokens behind the last bracket that is still open are known by what may follow them, and each
open bracket stands where an item may begin. -/

/-- An item may come next, and makes the tokens an expression. -/
def Awaits (level : List Token) : Prop :=
  ∀ ⦃item : List Token⦄, IsPhrase .item item → IsPhrase .expression (level ++ item)

/-- An item has ended: the tokens are an expression, with any factorials behind them. -/
def Ended (level : List Token) : Prop :=
  ∀ ⦃posts : List Token⦄, (∀ token ∈ posts, token = .operator .factorial) →
    IsPhrase .expression (level ++ posts)

/-- The tokens up to the last bracket that is still open, by the number of open brackets. -/
inductive Nested : Nat → List Token → Prop where
  /-- No bracket is open. -/
  | outside : Nested 0 []
  /-- One more bracket is opened where an operand is awaited. -/
  | inside {depth : Nat} {outer before : List Token} :
      Nested depth outer → Awaits before → Nested (depth + 1) (outer ++ before ++ [.bracket .left])

/-- The tokens that were read stand for an unfinished derivation at a stage. -/
inductive Parses : List Token → Stage → Prop where
  /-- An operand is awaited in the innermost group. -/
  | awaiting {depth : Nat} {outer level : List Token} :
      Nested depth outer → Awaits level → Parses (outer ++ level) ⟨false, depth⟩
  /-- An operand of the innermost group has ended. -/
  | ended {depth : Nat} {outer level : List Token} :
      Nested depth outer → Ended level → Parses (outer ++ level) ⟨true, depth⟩

section Levels

variable {level : List Token}

theorem awaits_nil : Awaits [] :=
  fun _ hitem => .single hitem

theorem Awaits.sign (h : Awaits level)
    (htoken : token = .operator .plus ∨ token = .operator .minus) : Awaits (level ++ [token]) := by
  intro item hitem
  -- a sign in front of an item belongs to it
  cases hitem with
  | @item signs tokens posts hsigns htokens hposts =>
    have hall : ∀ sign ∈ token :: signs, sign = .operator .plus ∨ sign = .operator .minus := by
      intro sign hmem
      rcases List.mem_cons.mp hmem with rfl | hmem
      · exact htoken
      · exact hsigns sign hmem
    simpa using h (.item hall htokens hposts)

theorem Awaits.primary (h : Awaits level) (htokens : IsPhrase .primary tokens) :
    Ended (level ++ tokens) := by
  intro posts hposts
  have hitem : IsPhrase .item ([] ++ tokens ++ posts) := .item (by simp) htokens hposts
  simpa using h hitem

theorem Ended.expression (h : Ended level) : IsPhrase .expression level := by
  have hnone : ∀ token ∈ ([] : List Token), token = .operator .factorial := by simp
  simpa using h hnone

theorem Ended.factorial (h : Ended level) : Ended (level ++ [.operator .factorial]) := by
  intro posts hposts
  have hall : ∀ token ∈ Token.operator .factorial :: posts, token = .operator .factorial := by
    intro token hmem
    rcases List.mem_cons.mp hmem with rfl | hmem
    · rfl
    · exact hposts token hmem
  simpa using h hall

theorem Ended.binary {op : Operator} (h : Ended level) (hop : op.isBinary = true) :
    Awaits (level ++ [.operator op]) := by
  intro item hitem
  simpa using IsPhrase.binary h.expression (Operator.isBinary_iff.mp hop) hitem

end Levels

/-- A number ends an operand of the innermost group. -/
theorem Parses.next_number {symbol : String} (h : Parses read stage)
    (hnext : stage.next? (.number symbol) = some stage') :
    Parses (read ++ [.number symbol]) stage' := by
  cases h with
  | ended => cases hnext
  | awaiting hnested hlevel =>
    cases hnext
    rw [List.append_assoc]
    exact .ended hnested (hlevel.primary (.number symbol))

/-- A left bracket opens a group where an operand is awaited. -/
theorem Parses.next_left (h : Parses read stage)
    (hnext : stage.next? (.bracket .left) = some stage') :
    Parses (read ++ [.bracket .left]) stage' := by
  cases h with
  | ended => cases hnext
  | awaiting hnested hlevel =>
    cases hnext
    -- the level goes on inside the bracket, where nothing has been read
    simpa using Parses.awaiting (hnested.inside hlevel) awaits_nil

/-- A right bracket makes the innermost group a primary of the one around it. -/
theorem Parses.next_right (h : Parses read stage)
    (hnext : stage.next? (.bracket .right) = some stage') :
    Parses (read ++ [.bracket .right]) stage' := by
  cases h with
  | awaiting => cases hnext
  | @ended depth outer level hnested hlevel =>
    -- the level that is closed becomes an operand of the level around it
    cases hnested with
    | outside => cases hnext
    | @inside depth outer before houter hbefore =>
      cases hnext
      have hended := hbefore.primary (.group hlevel.expression)
      simpa using Parses.ended houter hended

/-- An operator goes on with the innermost group in its own role. -/
theorem Parses.next_operator {op : Operator} (h : Parses read stage)
    (hnext : stage.next? (.operator op) = some stage') :
    Parses (read ++ [.operator op]) stage' := by
  cases h with
  | awaiting hnested hlevel =>
    -- where an item is awaited, only a sign can stand
    rw [next?_operator] at hnext
    split at hnext
    · cases hnext
    · rename_i hsign
      rw [Bool.not_eq_false] at hsign
      rw [Operator.isPostfixOp_of_isSign hsign] at hnext
      cases hnext
      rw [List.append_assoc]
      refine .awaiting hnested (hlevel.sign ?_)
      rcases Operator.isSign_iff.mp hsign with rfl | rfl
      · exact .inl rfl
      · exact .inr rfl
  | ended hnested hlevel =>
    rw [next?_operator] at hnext
    split at hnext
    · cases hnext
    · rename_i hsign
      rw [List.append_assoc]
      rcases op.isSign_or_isBinary_or_isPostfixOp with hop | hop | hop
      · exact absurd hop hsign
      · rw [Operator.isPostfixOp_of_isBinary hop] at hnext
        cases hnext
        exact .awaiting hnested (hlevel.binary hop)
      · obtain rfl := Operator.isPostfixOp_iff.mp hop
        cases hnext
        exact .ended hnested hlevel.factorial

/-- Every token that moves the stage on extends what has been parsed. -/
theorem Parses.next (h : Parses read stage) (hnext : stage.next? token = some stage') :
    Parses (read ++ [token]) stage' := by
  cases token with
  | number symbol => exact h.next_number hnext
  | operator op => exact h.next_operator hnext
  | bracket side =>
    cases side with
    | left => exact h.next_left hnext
    | right => exact h.next_right hnext

/-- Tokens that move the stage on extend what has been parsed. -/
theorem Parses.after (h : Parses read stage) (hafter : stage.after? tokens = some stage') :
    Parses (read ++ tokens) stage' := by
  induction tokens generalizing read stage with
  | nil =>
    cases hafter
    simpa using h
  | cons token rest ih =>
    rw [after?_cons] at hafter
    obtain ⟨middle, hnext, hrest⟩ := Option.bind_eq_some_iff.mp hafter
    rw [List.append_cons]
    exact ih (h.next hnext) hrest

theorem parses_start : Parses [] start :=
  .awaiting .outside awaits_nil

/-- **Stages recognise expressions.** A stream gets through all stages and ends behind an operand
with nothing open exactly if it is an expression. -/
theorem after?_eq_iff_isPhrase :
    start.after? tokens = some ⟨true, 0⟩ ↔ IsPhrase .expression tokens := by
  constructor
  · intro h
    have hparses := parses_start.after h
    rw [List.nil_append] at hparses
    cases hparses with
    | ended hnested hlevel =>
      -- with nothing open, there is only one level
      cases hnested with
      | outside => exact hlevel.expression
  · intro h
    exact after?_of_isPhrase h

end Stage

end ExprLex
