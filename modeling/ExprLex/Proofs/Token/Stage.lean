import ExprLex.Proofs.Operator.Role
import ExprLex.Token.Validity
import Mathlib.Data.List.Chain

/-!
# Stages of Token Streams

A stream of tokens is read from the left with two things in mind: whether an operand has just
ended, and how many brackets are open. A token that starts an operand stands exactly where none
has ended; all others stand exactly where one has. A stream that gets through and ends behind an
operand with nothing open is the same as a valid stream in which no operand follows another one
at once (`validate_and_apart_iff`).
-/

namespace ExprLex

namespace Token

@[simp] theorem endsOperand_number (symbol : String) : (number symbol).endsOperand = true := rfl

@[simp] theorem endsOperand_operator (op : Operator) :
    (operator op).endsOperand = op.isPostfixOp := rfl

@[simp] theorem endsOperand_left : (bracket .left).endsOperand = false := rfl

@[simp] theorem endsOperand_right : (bracket .right).endsOperand = true := rfl

@[simp] theorem startsOperand_number (symbol : String) :
    (number symbol).startsOperand = true := rfl

@[simp] theorem startsOperand_operator (op : Operator) :
    (operator op).startsOperand = op.isSign := rfl

@[simp] theorem startsOperand_left : (bracket .left).startsOperand = true := rfl

@[simp] theorem startsOperand_right : (bracket .right).startsOperand = false := rfl

end Token

/-- No token that ends an operand is followed at once by one that starts an operand. -/
def Apart (tokens : List Token) : Prop :=
  tokens.IsChain fun a b => ¬(a.endsOperand = true ∧ b.startsOperand = true)

/-- Where a stream of tokens stands. -/
structure Stage where
  /-- Whether an operand has just ended. -/
  ended : Bool
  /-- The number of open brackets. -/
  depth : Nat
  deriving DecidableEq

namespace Stage

/-- The stage before the first token. -/
def start : Stage := ⟨false, 0⟩

/-- The stage after one more token, if that token may stand there. -/
def next? (stage : Stage) (token : Token) : Option Stage :=
  if token.startsOperand = stage.ended then none
  else match token with
    | .bracket .left => some ⟨false, stage.depth + 1⟩
    | .bracket .right => if stage.depth = 0 then none else some ⟨true, stage.depth - 1⟩
    | _ => some ⟨token.endsOperand, stage.depth⟩

/-- The stage after a stream of tokens. -/
def after? (stage : Stage) (tokens : List Token) : Option Stage :=
  tokens.foldlM next? stage

/-! ## Single tokens -/

variable {ended : Bool} {depth : Nat}

theorem next?_number (symbol : String) :
    next? ⟨ended, depth⟩ (.number symbol) = if ended then none else some ⟨true, depth⟩ := by
  cases ended <;> rfl

theorem next?_left :
    next? ⟨ended, depth⟩ (.bracket .left) = if ended then none else some ⟨false, depth + 1⟩ := by
  cases ended <;> rfl

/-- A right bracket needs an operand before it and a bracket that is open. -/
theorem next?_right : next? ⟨ended, depth⟩ (.bracket .right) =
    if ended = true ∧ depth ≠ 0 then some ⟨true, depth - 1⟩ else none := by
  cases ended with
  | false => rfl
  | true => by_cases h : depth = 0 <;> simp [next?, h]

/-- A sign stands where an operand is awaited, and any other operator behind one. -/
theorem next?_operator (op : Operator) : next? ⟨ended, depth⟩ (.operator op) =
    if op.isSign = ended then none else some ⟨op.isPostfixOp, depth⟩ :=
  rfl

/-- A token that starts an operand stands exactly where none has ended. -/
theorem startsOperand_of_next? {stage stage' : Stage} {token : Token}
    (h : stage.next? token = some stage') : token.startsOperand = !stage.ended := by
  unfold next? at h
  split at h
  · cases h
  · rename_i hne
    cases hs : token.startsOperand <;> cases he : stage.ended <;> simp_all

/-- Whether an operand has ended is told by the last token alone. -/
theorem ended_of_next? {stage stage' : Stage} {token : Token}
    (h : stage.next? token = some stage') : stage'.ended = token.endsOperand := by
  unfold next? at h
  split at h
  · cases h
  · split at h
    · cases h
      rfl
    · split at h
      · cases h
      · cases h
        rfl
    · cases h
      rfl

@[simp] theorem after?_nil (stage : Stage) : stage.after? [] = some stage := rfl

theorem after?_cons (stage : Stage) (token : Token) (tokens : List Token) :
    stage.after? (token :: tokens) = (stage.next? token).bind fun next => next.after? tokens := by
  simp only [after?, List.foldlM_cons]
  rfl

theorem after?_append (stage : Stage) (xs ys : List Token) :
    stage.after? (xs ++ ys) = (stage.after? xs).bind fun next => next.after? ys := by
  simp only [after?, List.foldlM_append]
  rfl

theorem after?_append_singleton (stage : Stage) (xs : List Token) (token : Token) :
    stage.after? (xs ++ [token]) = (stage.after? xs).bind fun next => next.next? token := by
  rw [after?_append]
  cases stage.after? xs with
  | none => rfl
  | some next => simp [after?_cons]

end Stage

/-! ## Valid streams -/

/-- What stands before a place has what it needs behind it. -/
private def Suited (before after : Option Token) : Prop :=
  ∀ op, before = some (.operator op) → rightFits op after = true

private theorem suited_operator_iff {op : Operator} {after : Option Token} :
    Suited (some (.operator op)) after ↔ rightFits op after = true := by
  simp [Suited]

/-- What starts an operand suits any token before it. -/
private theorem suited_of_startsOperand {before : Option Token} {token : Token}
    (h : token.startsOperand = true) : Suited before (some token) := by
  intro op _
  simp [rightFits, h]

/-- What ends an operand suits any token behind it. -/
private theorem suited_of_endsOperand {before after : Option Token}
    (h : before.any Token.endsOperand = true) : Suited before after := by
  rintro op rfl
  have hop : op.isPostfixOp = true := h
  simp [rightFits, hop]

/-- Tokens are apart if the first is apart from what stands before it and the others are. -/
private theorem apart_cons_iff {before : Option Token} {token : Token} {rest : List Token} :
    Apart (before.toList ++ token :: rest) ↔
      ¬(before.any Token.endsOperand = true ∧ token.startsOperand = true)
        ∧ Apart (token :: rest) := by
  cases before with
  | none => simp
  | some first => simp [Apart]

/-- For a token that starts an operand, the check and the stages agree if they do behind it. -/
private theorem agree_of_startsOperand {before : Option Token} {token : Token}
    {rest : List Token} {valid : Prop} {next : Stage} (hs : token.startsOperand = true)
    (h : valid ∧ Apart (token :: rest) ↔ next.after? rest = some ⟨true, 0⟩) :
    (valid ∧ Apart (before.toList ++ token :: rest) ∧ Suited before (some token)) ↔
      ((if before.any Token.endsOperand then none else some next).bind fun stage =>
        stage.after? rest) = some ⟨true, 0⟩ := by
  have hsuited : Suited before (some token) := suited_of_startsOperand hs
  rw [apart_cons_iff]
  cases before.any Token.endsOperand with
  | true => simp [hs]
  | false => simpa [hsuited] using h

/-- For an operator, the check and the stages agree if they do behind it. -/
private theorem agree_operator {before : Option Token} {op : Operator} {depth index : Nat}
    {rest : List Token}
    (h : (validateFrom (some (.operator op)) depth (index + 1) rest = .ok ()
        ∧ Apart (.operator op :: rest) ∧ rightFits op rest.head? = true) ↔
      Stage.after? ⟨op.isPostfixOp, depth⟩ rest = some ⟨true, 0⟩) :
    (validateFrom before depth index (.operator op :: rest) = .ok ()
        ∧ Apart (before.toList ++ .operator op :: rest) ∧ Suited before (some (.operator op))) ↔
      Stage.after? ⟨before.any Token.endsOperand, depth⟩ (.operator op :: rest)
        = some ⟨true, 0⟩ := by
  rw [Stage.after?_cons, Stage.next?_operator, apart_cons_iff, ← and_assoc]
  by_cases hs : op.isSign = true
  · -- a sign needs nothing before it, but no operand may have ended there
    have hsuited : Suited before (some (.operator op)) := suited_of_startsOperand hs
    cases he : before.any Token.endsOperand with
    | true => simp [hs]
    | false =>
      cases hr : rightFits op rest.head? <;>
        simp [validateFrom, leftFits, hs, he, hr, hsuited, ← h]
  · -- any other operator needs the end of an operand before it
    rw [Bool.not_eq_true] at hs
    cases he : before.any Token.endsOperand with
    | true =>
      have hsuited : Suited before (some (.operator op)) := suited_of_endsOperand he
      cases hr : rightFits op rest.head? <;>
        simp [validateFrom, leftFits, hs, he, hr, hsuited, ← h]
    | false => simp [validateFrom, leftFits, hs, he]

/-- For a right bracket, the check and the stages agree if they do behind it. -/
private theorem agree_right {before : Option Token} {depth index : Nat} {rest : List Token}
    (hfirst : before = none → depth = 0)
    (h : validateFrom (some (.bracket .right)) (depth - 1) (index + 1) rest = .ok ()
        ∧ Apart (.bracket .right :: rest) ↔
      Stage.after? ⟨true, depth - 1⟩ rest = some ⟨true, 0⟩) :
    (validateFrom before depth index (.bracket .right :: rest) = .ok ()
        ∧ Apart (before.toList ++ .bracket .right :: rest)
        ∧ Suited before (some (.bracket .right))) ↔
      Stage.after? ⟨before.any Token.endsOperand, depth⟩ (.bracket .right :: rest)
        = some ⟨true, 0⟩ := by
  rw [Stage.after?_cons, Stage.next?_right, apart_cons_iff]
  by_cases hd : depth = 0
  · simp [validateFrom, hd]
  cases he : before.any Token.endsOperand with
  | true =>
    have hsuited : Suited before (some (.bracket .right)) := suited_of_endsOperand he
    have hleft : before ≠ some (.bracket .left) := by
      rintro rfl
      cases he
    simpa [validateFrom, hd, hleft, hsuited] using h
  | false =>
    -- only a left bracket or an operator that wants an operand can stand before
    simp only [Bool.false_eq_true, false_and, if_false, Option.bind_none, reduceCtorEq, iff_false]
    rintro ⟨hvalid, -, hsuited⟩
    cases before with
    | none => exact hd (hfirst rfl)
    | some token =>
      cases token with
      | number symbol => cases he
      | operator op =>
        rw [suited_operator_iff] at hsuited
        have hop : op.isPostfixOp = false := he
        simp [rightFits, hop] at hsuited
      | bracket side =>
        cases side with
        | left => simp [validateFrom, hd] at hvalid
        | right => cases he

/-- From any token on, the check accepts what the stages lead to the end, if no operands are side by
side. -/
private theorem validateFrom_eq_ok_iff {before : Option Token} {depth index : Nat}
    {tokens : List Token} (hfirst : before = none → depth = 0 ∧ tokens ≠ [])
    (hleft : before = some (.bracket .left) → depth ≠ 0) :
    (validateFrom before depth index tokens = .ok () ∧ Apart (before.toList ++ tokens)
        ∧ Suited before tokens.head?) ↔
      Stage.after? ⟨before.any Token.endsOperand, depth⟩ tokens = some ⟨true, 0⟩ := by
  -- induction on the tokens, for anything that may stand before them
  induction tokens generalizing before depth index with
  | nil =>
    cases before with
    | none => exact absurd rfl (hfirst rfl).2
    | some token =>
      -- at the end nothing may be open and nothing may be wanted
      cases token with
      | number symbol => simp [validateFrom, Apart, Suited]
      | operator op =>
        simp [validateFrom, Apart, suited_operator_iff, rightFits, Token.endsOperand, and_comm]
      | bracket side =>
        cases side with
        | left => simp [validateFrom, hleft rfl]
        | right => simp [validateFrom, Apart, Suited]
  | cons token rest ih =>
    cases token with
    | number symbol =>
      have hrest := @ih (some (.number symbol)) depth (index + 1) (by simp) (by simp)
      rw [Stage.after?_cons, Stage.next?_number]
      exact agree_of_startsOperand rfl (by simpa [Suited, validateFrom] using hrest)
    | operator op =>
      have hrest := @ih (some (.operator op)) depth (index + 1) (by simp) (by simp)
      rw [suited_operator_iff] at hrest
      exact agree_operator hrest
    | bracket side =>
      cases side with
      | left =>
        have hrest := @ih (some (.bracket .left)) (depth + 1) (index + 1) (by simp) (by simp)
        rw [Stage.after?_cons, Stage.next?_left]
        exact agree_of_startsOperand rfl (by simpa [Suited, validateFrom] using hrest)
      | right =>
        have hrest := @ih (some (.bracket .right)) (depth - 1) (index + 1) (by simp) (by simp)
        exact agree_right (fun h => (hfirst h).1) (by simpa [Suited] using hrest)

/-- **Valid streams.** A stream is valid and without one operand right behind another exactly if
it gets through all stages and ends behind an operand with nothing open. -/
theorem validate_and_apart_iff {tokens : List Token} (hne : tokens ≠ []) :
    (validate tokens = .ok () ∧ Apart tokens) ↔ Stage.start.after? tokens = some ⟨true, 0⟩ := by
  have h := @validateFrom_eq_ok_iff none 0 0 tokens (fun _ => ⟨rfl, hne⟩) (by simp)
  have hempty : tokens.isEmpty = false := by simpa using hne
  simpa [validate, hempty, Suited, Stage.start] using h

end ExprLex
