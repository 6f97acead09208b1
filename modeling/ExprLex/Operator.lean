/-!
# Operators

The eight operators of arithmetic expressions with their symbols, arities and associativities.
Plus and minus are signs in front of an operand, the factorial stands behind one, and the other
five stand between two.
-/

namespace ExprLex

/-- The number of operands of an operator. -/
inductive Arity where
  | unary
  | binary
  deriving DecidableEq

/-- The side from which a chain of equal operators is grouped. A unary operator stands behind
its operand if it groups from the left and in front of it if it groups from the right. -/
inductive Associativity where
  | left
  | right
  deriving DecidableEq

/-- An operator of arithmetic expressions. -/
inductive Operator where
  | addition
  | subtraction
  | multiplication
  | division
  | power
  | plus
  | minus
  | factorial
  deriving DecidableEq

namespace Operator

/-- All operators. -/
def all : List Operator :=
  [.addition, .subtraction, .multiplication, .division, .power, .plus, .minus, .factorial]

/-- The name of an operator in capitals. -/
def name : Operator → String
  | .addition => "ADDITION"
  | .subtraction => "SUBTRACTION"
  | .multiplication => "MULTIPLICATION"
  | .division => "DIVISION"
  | .power => "POWER"
  | .plus => "PLUS"
  | .minus => "MINUS"
  | .factorial => "FACTORIAL"

/-- The operator of a name in capitals. -/
def ofName? (name : String) : Option Operator :=
  all.find? (·.name == name)

/-- The name of an operator in precedence tables. -/
def label : Operator → String
  | .addition => "addition"
  | .subtraction => "subtraction"
  | .multiplication => "multiplication"
  | .division => "division"
  | .power => "power"
  | .plus => "plus"
  | .minus => "minus"
  | .factorial => "factorial"

/-- The character that an operator is written with. -/
def symbol : Operator → Char
  | .addition => '+'
  | .subtraction => '-'
  | .multiplication => '*'
  | .division => '/'
  | .power => '^'
  | .plus => '+'
  | .minus => '-'
  | .factorial => '!'

/-- The number of operands of an operator. -/
def arity : Operator → Arity
  | .plus | .minus | .factorial => .unary
  | .addition | .subtraction | .multiplication | .division | .power => .binary

/-- The grouping of an operator. -/
def associativity : Operator → Associativity
  | .plus | .minus | .power => .right
  | .addition | .subtraction | .multiplication | .division | .factorial => .left

/-- Whether an operator has one operand. -/
def isUnary (op : Operator) : Bool :=
  op.arity == .unary

/-- Whether an operator has two operands. -/
def isBinary (op : Operator) : Bool :=
  op.arity == .binary

/-- Whether an operator groups from the left. -/
def isLeftAssoc (op : Operator) : Bool :=
  op.associativity == .left

/-- Whether an operator groups from the right. -/
def isRightAssoc (op : Operator) : Bool :=
  op.associativity == .right

/-- Whether an operator is a sign in front of its operand. -/
def isSign (op : Operator) : Bool :=
  op.isUnary && op.isRightAssoc

/-- Whether an operator stands behind its only operand. -/
def isPostfixOp (op : Operator) : Bool :=
  op.isUnary && op.isLeftAssoc

/-- An operator as it is shown in lists. -/
def describe (op : Operator) : String :=
  "Operator(" ++ op.name ++ ")"

end Operator

end ExprLex
