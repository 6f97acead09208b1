import ExprLex.BracketLog
import ExprLex.LogRecord
import ExprLex.SyntaxError

/-!
# Scanner States

A scanner reads an expression one character at a time. It holds the lexeme that it is building,
as a kind and a text, the tokens that are finished, and a log of the brackets.
-/

namespace ExprLex

/-- The kind of the lexeme that is being built. -/
inductive Pending where
  /-- There is no lexeme. -/
  | empty
  /-- Digits. -/
  | integer
  /-- Digits with a point before, among or behind them. -/
  | decimal
  /-- A point without digits. -/
  | lonePoint
  /-- A left bracket. -/
  | leftBracket
  /-- A right bracket. -/
  | rightBracket
  /-- An operator between two operands. -/
  | binary
  /-- A sign in front of an operand. -/
  | sign
  /-- An operator behind its operand. -/
  | postfixOp
  deriving DecidableEq

namespace Pending

/-- Whether the lexeme closes an operand, so that a number behind it is a new factor. -/
def closesOperand : Pending → Bool
  | .rightBracket | .postfixOp => true
  | _ => false

/-- Whether the lexeme may be the end of an operand, so that a bracket behind it opens a new
factor. -/
def endsOperand : Pending → Bool
  | .integer | .decimal | .rightBracket | .postfixOp => true
  | _ => false

/-- Whether an operand has to come behind the lexeme. There is then no left operand for an
operator, and a sign may stand. -/
def awaitsOperand : Pending → Bool
  | .empty | .leftBracket | .binary | .sign => true
  | _ => false

end Pending

/-- What a scanner tells about its work. -/
inductive Notice where
  /-- The reading of an expression began. -/
  | started (expression : String)
  /-- A multiplication was inserted when the character at a position was read. -/
  | inserted (position : Int)
  /-- The expression was refused. -/
  | rejected (expression : String) (reason : SyntaxError)
  /-- The expression was read to so many tokens, some of them inserted. -/
  | produced (tokens implicit : Nat)
  deriving DecidableEq

/-- The text of a notice. -/
def Notice.message : Notice → String
  | .started expression => "Tokenizing " ++ Text.quoted expression
  | .inserted position => s!"Implicit '*' inserted before index {position}"
  | .rejected expression reason =>
    "Rejected " ++ Text.quoted expression ++ ": " ++ reason.message
  | .produced tokens implicit => s!"Produced {tokens} tokens ({implicit} implicit '*')"

/-- A notice as it is logged. -/
def Notice.record (notice : Notice) : LogRecord :=
  ⟨.debug, notice.message⟩

/-- The state of a scanner. -/
structure Scanner where
  /-- The finished tokens. -/
  tokens : Array Token
  /-- The indices of the multiplications among them that were not written. -/
  implicit : Array Nat
  /-- The kind of the lexeme in progress. -/
  pending : Pending
  /-- The text of the lexeme in progress. -/
  symbol : String
  /-- The position of the next character. -/
  position : Int
  /-- The brackets read so far. -/
  brackets : BracketLog
  /-- What was told about all work so far. -/
  notices : Array Notice
  deriving DecidableEq

namespace Scanner

/-- The state before any work. -/
def fresh : Scanner where
  tokens := #[]
  implicit := #[]
  pending := .empty
  symbol := ""
  position := 0
  brackets := .empty
  notices := #[]

/-- Forgets everything but the notices. -/
def reset (s : Scanner) : Scanner :=
  { fresh with notices := s.notices }

/-- Adds a notice. -/
def note (notice : Notice) (s : Scanner) : Scanner :=
  { s with notices := s.notices.push notice }

/-- Begins a lexeme. -/
def start (symbol : String) (pending : Pending) (s : Scanner) : Scanner :=
  { s with symbol, pending }

/-- Adds a text to the lexeme in progress, which is then of the given kind. -/
def extend (text : String) (pending : Pending) (s : Scanner) : Scanner :=
  { s with symbol := s.symbol ++ text, pending }

/-- Adds the multiplication between two factors that stand side by side. -/
def insertImplicit (s : Scanner) : Scanner :=
  let index := s.tokens.size
  let notice := Notice.inserted s.position
  { s with
    tokens := s.tokens.push (.operator .multiplication)
    implicit := s.implicit.push index
    notices := s.notices.push notice }

/-- Moves on by one character. -/
def advance (s : Scanner) : Scanner :=
  { s with position := s.position + 1 }

end Scanner

end ExprLex
