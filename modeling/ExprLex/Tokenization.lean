import ExprLex.Scanner.Step
import ExprLex.Token.Validity

/-!
# Tokenization

An expression is read from a fresh scanner to its tokens, among them the multiplications that
were not written, or to the first error. What was read can be written again by its symbols.
-/

namespace ExprLex

/-- The tokens of an expression. -/
structure Tokenization where
  /-- All tokens in order. -/
  tokens : List Token
  /-- The indices of the multiplications that were not written. -/
  implicit : List Nat
  deriving DecidableEq

/-- Reads a whole expression. -/
def tokenize (table : OperatorTable) (expression : String) : Except SyntaxError Tokenization :=
  match Scanner.readExpression table expression Scanner.fresh with
  | .ok tokens s => .ok ⟨tokens, s.implicit.toList⟩
  | .error e _ => .error e

/-- What is logged while an expression is read. -/
def tokenizeLog (table : OperatorTable) (expression : String) : List LogRecord :=
  let notices :=
    match Scanner.readExpression table expression Scanner.fresh with
    | .ok _ s => s.notices
    | .error _ s => s.notices
  notices.toList.map Notice.record

namespace Tokenization

/-- The tokens that were written. -/
def explicit (t : Tokenization) : List Token :=
  (t.tokens.zipIdx.filter fun (_, index) => !t.implicit.contains index).map Prod.fst

end Tokenization

/-- An expression that was read, written by its symbols and read again. -/
structure Roundtrip where
  /-- The tokens of the expression, written with a separator. -/
  rendered : String
  /-- The same for the tokens that were in the expression. -/
  renderedExplicit : String
  /-- What the written text is read as. -/
  again : Except SyntaxError Tokenization
  /-- Whether the written text is read as the same tokens, if it can be read. -/
  stable : Option Bool
  /-- Whether the tokens make up a well-formed expression. -/
  validity : Except StreamFault Unit

/-- Reads an expression with the standard operators, writes it, and reads it again. -/
def roundtrip (separator expression : String) : Except SyntaxError Roundtrip :=
  match tokenize OperatorTable.standard expression with
  | .error e => .error e
  | .ok read =>
    let rendered := render separator read.tokens
    let again := tokenize OperatorTable.standard rendered
    .ok {
      rendered
      renderedExplicit := render separator read.explicit
      again
      stable := again.toOption.map (·.tokens == read.tokens)
      validity := validate read.tokens }

end ExprLex
