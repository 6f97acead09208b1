import ExprLex.Numeral
import ExprLex.SyntaxError

/-!
# Failures

The faults of expressions and of numbers side by side. Two faults of expressions are equal if
all their parts are; two reports about a number are never equal, since each stands for itself.
-/

namespace ExprLex

/-- A report of a fault. -/
inductive Failure where
  /-- An expression is refused. -/
  | syntactic (e : SyntaxError)
  /-- A text is no number. -/
  | numeric (e : NotANumber)

namespace Failure

/-- The text of a report. -/
def message : Failure → String
  | .syntactic e => e.message
  | .numeric e => e.message

/-- Whether a report is about an expression. -/
def isSyntactic : Failure → Bool
  | .syntactic _ => true
  | .numeric _ => false

/-- Whether two separate reports are equal. -/
def agrees : Failure → Failure → Bool
  | .syntactic a, .syntactic b => a == b
  | _, _ => false

end Failure

end ExprLex
