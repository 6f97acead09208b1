import ExprLex.Text.Quoted

/-!
# Syntax Errors

What can be wrong with an expression. An error carries the text at fault and its position, so
that a caller can point at it; the position may be negative when a machine is driven by hand.
-/

namespace ExprLex

/-- The kinds of syntax errors. -/
inductive SyntaxErrorKind where
  /-- Any fault. -/
  | general
  /-- A text that expressions are not made of. -/
  | unknownSymbol
  /-- A second point in a number. -/
  | multiplePoints
  /-- A point without a digit on either side. -/
  | trailingPoint
  /-- A right bracket that closes nothing. -/
  | unmatchedRight
  /-- A left bracket that is never closed. -/
  | unmatchedLeft
  /-- Brackets with nothing between them. -/
  | emptyBrackets
  /-- An operator without an operand behind it. -/
  | missingRight
  /-- An operator without an operand in front of it. -/
  | missingLeft
  deriving DecidableEq

/-- A fault of an expression. -/
structure SyntaxError where
  /-- The kind of the fault. -/
  kind : SyntaxErrorKind
  /-- The text at fault. -/
  token : String
  /-- The position of the text at fault. -/
  position : Int
  /-- What is told about it. -/
  message : String
  deriving DecidableEq

namespace SyntaxErrorKind

/-- The name of a kind. -/
def name : SyntaxErrorKind → String
  | .general => "ExpressionSyntaxError"
  | .unknownSymbol => "UnknownSymbolError"
  | .multiplePoints => "MultipleDecimalPointsError"
  | .trailingPoint => "TrailingDecimalPointError"
  | .unmatchedRight => "UnmatchedRightParenError"
  | .unmatchedLeft => "UnmatchedLeftParenError"
  | .emptyBrackets => "EmptyParenthesesError"
  | .missingRight => "MissingRightOperandError"
  | .missingLeft => "MissingLeftOperandError"

/-- The message for a text at fault and its position. -/
def describe (kind : SyntaxErrorKind) (token : String) (position : Int) : String :=
  match kind with
  | .general => s!"{token} at index {position}"
  | .unknownSymbol => s!"unknown symbol '{token}' at index {position}"
  | .multiplePoints => "cannot allow multiple decimal points in a single number"
  | .trailingPoint => s!"something must be on either side of a '.' at index {position}"
  | .unmatchedRight => s!"the ')' at index {position} is missing a matching '('"
  | .unmatchedLeft => s!"the '(' at index {position} is missing a matching ')'"
  | .emptyBrackets => s!"cannot allow an empty parentheses on index {position}"
  | .missingRight => s!"operator '{token}' at index {position} expects a right operand"
  | .missingLeft => s!"operator '{token}' at index {position} requires a left operand"

end SyntaxErrorKind

namespace SyntaxError

/-- The error of a kind with its usual message. -/
def of (kind : SyntaxErrorKind) (token : String) (position : Int) : SyntaxError :=
  ⟨kind, token, position, kind.describe token position⟩

/-- The text is none that expressions are made of. -/
def unknownSymbol (token : String) (position : Int) : SyntaxError :=
  of .unknownSymbol token position

/-- A number has a second point. -/
def multiplePoints (position : Int) : SyntaxError :=
  of .multiplePoints "." position

/-- A point has no digit on either side. -/
def trailingPoint (position : Int) : SyntaxError :=
  of .trailingPoint "." position

/-- A right bracket closes nothing. -/
def unmatchedRight (position : Int) : SyntaxError :=
  of .unmatchedRight ")" position

/-- A left bracket is never closed. -/
def unmatchedLeft (position : Int) : SyntaxError :=
  of .unmatchedLeft "(" position

/-- A right bracket follows its left bracket at once. -/
def emptyBrackets (position : Int) : SyntaxError :=
  of .emptyBrackets ")" position

/-- An operator has no operand behind it. -/
def missingRight (token : String) (position : Int) : SyntaxError :=
  of .missingRight token position

/-- An operator has no operand in front of it. -/
def missingLeft (token : String) (position : Int) : SyntaxError :=
  of .missingLeft token position

/-- An error as it is shown. -/
def describe (e : SyntaxError) : String :=
  s!"{e.kind.name}({Text.quoted e.token}, {e.position})"

/-- The expression and, in the next line, a caret below the position of the error. -/
def pointer (e : SyntaxError) (expression : String) : String :=
  expression ++ "\n" ++ String.ofList (List.replicate e.position.toNat ' ') ++ "^"

end SyntaxError

end ExprLex
