import ExprLex.Operator
import ExprLex.Text.Quoted

/-!
# Tokens

A token is a number, kept as the text it was read from, an operator or a bracket. Tokens are
written one after the other by their symbols.
-/

namespace ExprLex

/-- A round bracket. -/
inductive Bracket where
  | left
  | right
  deriving DecidableEq

/-- A token of an arithmetic expression. -/
inductive Token where
  /-- A number, kept as its text. -/
  | number (symbol : String)
  /-- An operator. -/
  | operator (op : Operator)
  /-- A bracket. -/
  | bracket (side : Bracket)
  deriving DecidableEq

/-- The kind of a token. -/
inductive TokenKind where
  | number
  | operator
  | bracket
  deriving DecidableEq

namespace Bracket

/-- The character of a bracket. -/
def symbol : Bracket → Char
  | .left => '('
  | .right => ')'

/-- A bracket as it is shown in lists. -/
def describe : Bracket → String
  | .left => "LEFT_PAREN"
  | .right => "RIGHT_PAREN"

end Bracket

namespace Token

/-- The text of a token. -/
def symbol : Token → String
  | .number symbol => symbol
  | .operator op => String.singleton op.symbol
  | .bracket side => String.singleton side.symbol

/-- A token as it is shown in lists. -/
def describe : Token → String
  | .number symbol => "Number(" ++ Text.quoted symbol ++ ")"
  | .operator op => op.describe
  | .bracket side => side.describe

/-- The kind of a token. -/
def kind : Token → TokenKind
  | .number _ => .number
  | .operator _ => .operator
  | .bracket _ => .bracket

/-- Whether an operand may end with this token. -/
def endsOperand : Token → Bool
  | .number _ => true
  | .operator op => op.isPostfixOp
  | .bracket side => side == .right

/-- Whether an operand may start with this token. -/
def startsOperand : Token → Bool
  | .number _ => true
  | .operator op => op.isSign
  | .bracket side => side == .left

end Token

/-- Tokens written by their symbols, with a separator between neighbours. -/
def render (separator : String) (tokens : List Token) : String :=
  separator.intercalate (tokens.map Token.symbol)

/-- Tokens as they are shown in a list. -/
def describeAll (tokens : List Token) : String :=
  Text.bracketed (tokens.map Token.describe)

/-- The bracket depth at each token when the depth before the first one is given: a left bracket
has the depth that it opens and a right bracket the depth that it closes. -/
def bracketDepths : Int → List Token → List Int
  | _, [] => []
  | depth, token :: rest =>
    match token with
    | .bracket .left => (depth + 1) :: bracketDepths (depth + 1) rest
    | .bracket .right => depth :: bracketDepths (depth - 1) rest
    | _ => depth :: bracketDepths depth rest

end ExprLex
