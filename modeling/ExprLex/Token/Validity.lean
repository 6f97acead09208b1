import ExprLex.Token

/-!
# Well-Formed Token Streams

A stream of tokens is fit for evaluation if its brackets match and enclose something, and each
operator has its operands next to it. The first fault found from the left is reported.
-/

namespace ExprLex

/-- The faults of a token stream, with the index of the token at fault. -/
inductive StreamFault where
  /-- There are no tokens. -/
  | noTokens
  /-- A right bracket closes nothing. -/
  | unmatchedRight (index : Nat)
  /-- A right bracket follows its left bracket at once. -/
  | emptyBrackets (index : Nat)
  /-- An operator has no operand in front of it. -/
  | leftNeighbour (op : Operator) (index : Nat) (neighbour : Option Token)
  /-- An operator has no operand behind it. -/
  | rightNeighbour (op : Operator) (index : Nat) (neighbour : Option Token)
  /-- So many left brackets are never closed. -/
  | unclosed (count : Nat)
  deriving DecidableEq

namespace StreamFault

/-- The text of a neighbour, which may be missing. -/
def neighbourText : Option Token → String
  | some token => token.symbol
  | none => "None"

/-- The text of a fault. -/
def message : StreamFault → String
  | .noTokens => "Empty token list"
  | .unmatchedRight index => s!"Unmatched closing parenthesis at position {index}"
  | .emptyBrackets index => s!"Empty parentheses at position {index}"
  | .leftNeighbour op index neighbour =>
    s!"Operator {op.symbol} at position {index} follows invalid token: "
      ++ neighbourText neighbour
  | .rightNeighbour op index neighbour =>
    s!"Operator {op.symbol} at position {index} precedes invalid token: "
      ++ neighbourText neighbour
  | .unclosed count => s!"Unmatched opening parenthesis ({count} unclosed)"

end StreamFault

/-- Whether an operator has what it needs on its left: a sign needs nothing there. -/
def leftFits (before : Option Token) (op : Operator) : Bool :=
  op.isSign || before.any Token.endsOperand

/-- Whether an operator has what it needs on its right: one that stands behind its operand needs
nothing there. -/
def rightFits (op : Operator) (after : Option Token) : Bool :=
  op.isPostfixOp || after.any Token.startsOperand

/-- Checks the rest of a stream behind the token `before`, with `depth` brackets open and the
next token at `index`. -/
def validateFrom (before : Option Token) (depth index : Nat) :
    List Token → Except StreamFault Unit
  | [] => if depth = 0 then .ok () else .error (.unclosed depth)
  | token :: rest =>
    match token with
    | .number _ => validateFrom (some token) depth (index + 1) rest
    | .bracket .left => validateFrom (some token) (depth + 1) (index + 1) rest
    | .bracket .right =>
      if depth = 0 then .error (.unmatchedRight index)
      else if before = some (.bracket .left) then .error (.emptyBrackets index)
      else validateFrom (some token) (depth - 1) (index + 1) rest
    | .operator op =>
      if !leftFits before op then .error (.leftNeighbour op index before)
      else if !rightFits op rest.head? then .error (.rightNeighbour op index rest.head?)
      else validateFrom (some token) depth (index + 1) rest

/-- Checks a whole stream. -/
def validate (tokens : List Token) : Except StreamFault Unit :=
  if tokens.isEmpty then .error .noTokens else validateFrom none 0 0 tokens

end ExprLex
