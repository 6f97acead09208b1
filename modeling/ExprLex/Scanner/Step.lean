import ExprLex.OperatorTable
import ExprLex.Scanner.Basic
import ExprLex.Text.CharClass

/-!
# Reading One Character

A character either extends the lexeme in progress or commits it as a token and begins the next
one. Two factors side by side get a multiplication between them. A character that cannot stand
where it does is an error.

## Steps

- `readDigit`, `readPoint`, `readLeft`, `readRight`, `readOperator`: one step for each class
- `readChar`: the step for any character, without moving on
- `feed`: characters one after the other
- `finish`: the check at the end
- `readExpression`: a whole expression from the start
-/

namespace ExprLex

/-- A step of a scanner: it may fail, and leaves a state in either case. -/
abbrev Scan := EStateM SyntaxError Scanner

namespace Scanner

/-! ## Committing a lexeme -/

/-- The token of a lexeme. A point without digits has none. An operator is looked up in the
table again, by the role in which it was read. -/
def pendingToken? (table : OperatorTable) (symbol : String) : Pending → Option Token
  | .empty | .lonePoint => none
  | .integer | .decimal => some (.number symbol)
  | .leftBracket => some (.bracket .left)
  | .rightBracket => some (.bracket .right)
  | .sign => (table.sign? symbol).map .operator
  | .binary => (table.binary? symbol).map .operator
  | .postfixOp => (table.postfixOp? symbol).map .operator

/-- Appends the token of the lexeme in progress, if it has one, and clears the lexeme. -/
def commit (table : OperatorTable) (s : Scanner) : Scanner :=
  match pendingToken? table s.symbol s.pending with
  | some token => { s with tokens := s.tokens.push token, symbol := "", pending := .empty }
  | none => { s with symbol := "", pending := .empty }

/-- Commits the lexeme in progress and begins another one, with a multiplication between the two
if they are factors side by side. -/
def next (table : OperatorTable) (juxtaposed : Bool) (symbol : String) (pending : Pending)
    (s : Scanner) : Scanner :=
  if juxtaposed then ((s.commit table).insertImplicit).start symbol pending
  else (s.commit table).start symbol pending

/-! ## One step for each class of characters -/

/-- Reads a digit: it extends a number, and completes a point. -/
def readDigit (table : OperatorTable) (text : String) : Scan Unit := fun s =>
  match s.pending with
  -- a point becomes a decimal like `.5`
  | .lonePoint => .ok () (s.extend text .decimal)
  | .integer => .ok () (s.extend text .integer)
  | .decimal => .ok () (s.extend text .decimal)
  -- `(5)3` and `5!3` are products
  | committed => .ok () (s.next table committed.closesOperand text .integer)

/-- Reads a point: a number has at most one. -/
def readPoint (table : OperatorTable) (text : String) : Scan Unit := fun s =>
  match s.pending with
  | .decimal | .lonePoint => .error (.multiplePoints s.position) s
  | .integer => .ok () (s.extend text .decimal)
  -- `(5).3` and `5!.3` are products
  | committed => .ok () (s.next table committed.closesOperand text .lonePoint)

/-- Reads a left bracket. -/
def readLeft (table : OperatorTable) (text : String) : Scan Unit := fun s =>
  match s.pending with
  | .lonePoint => .error (.trailingPoint (s.position - 1)) s
  -- `5(`, `(5)(` and `5!(` begin products
  | committed =>
    let s := s.next table committed.endsOperand text .leftBracket
    .ok () { s with brackets := s.brackets.opened s.position .left }

/-- Reads a right bracket: something has to be open, and an operand has to stand before it. -/
def readRight (table : OperatorTable) (text : String) : Scan Unit := fun s =>
  -- that nothing is open outweighs what stands before the bracket
  if s.brackets.depth = 0 then .error (.unmatchedRight s.position) s
  else match s.pending with
    | .lonePoint => .error (.trailingPoint (s.position - 1)) s
    | .leftBracket => .error (.emptyBrackets s.position) s
    | .sign | .binary => .error (.missingRight s.symbol (s.position - 1)) s
    | _ =>
      let s := s.next table false text .rightBracket
      .ok () { s with brackets := s.brackets.closed s.position .right }

/-- Reads an operator. Where an operand is awaited it can only be a sign; behind an operand it
stands behind it, if its character has that role, or between it and the next one. -/
def readOperator (table : OperatorTable) (text : String) : Scan Unit := fun s =>
  if s.pending = .lonePoint then .error (.trailingPoint (s.position - 1)) s
  -- at the start, behind a left bracket, or behind an operator or another sign
  else if (table.sign? text).isSome && s.pending.awaitsOperand then
    .ok () (s.next table false text .sign)
  -- a character that can only be a sign, behind an operand
  else if (table.binary? text).isNone && (table.postfixOp? text).isNone then
    .error (.missingRight text s.position) s
  else if s.pending.awaitsOperand then .error (.missingLeft text s.position) s
  else if (table.postfixOp? text).isSome then .ok () (s.next table false text .postfixOp)
  else .ok () (s.next table false text .binary)

/-! ## Any character -/

/-- Reads a character without moving on. Digits, the point and the brackets keep their meaning
whatever the table says; a blank is skipped unless it is an operator. -/
def readChar (table : OperatorTable) (c : Char) : Scan Unit :=
  let text := String.singleton c
  if Text.isDigit c then readDigit table text
  else if c = '.' then readPoint table text
  else if c = '(' then readLeft table text
  else if c = ')' then readRight table text
  else if table.isOperator text then readOperator table text
  else if Text.isBlank c then pure ()
  else fun s => .error (.unknownSymbol text s.position) s

/-- Reads characters one after the other, up to the first that fails. -/
def feed (table : OperatorTable) : List Char → Scan Unit
  | [], s => .ok () s
  | c :: rest, s =>
    match readChar table c s with
    | .ok _ read => feed table rest read.advance
    -- the position stays at the character that failed
    | .error e failed => .error e failed

/-! ## The end of an expression -/

/-- Checks that the lexeme in progress may be the last one and that no bracket is open. -/
def finish : Scan Unit := fun s =>
  match s.pending with
  | .lonePoint => .error (.trailingPoint (s.position - 1)) s
  | .sign | .binary => .error (.missingRight s.symbol (s.position - 1)) s
  | _ =>
    if h : 0 < s.brackets.depth then .error (.unmatchedLeft (s.brackets.openPosition h)) s
    else .ok () s

/-- Forgets earlier work and reads a whole expression. A failure leaves no tokens, and the rest
of the state as it was at the failure. -/
def readExpression (table : OperatorTable) (expression : String) : Scan (List Token) := fun s =>
  match (do feed table expression.toList; finish) (s.reset.note (.started expression)) with
  | .ok _ read =>
    let done := read.commit table
    .ok done.tokens.toList (done.note (.produced done.tokens.size done.implicit.size))
  | .error e failed =>
    .error e { failed.note (.rejected expression e) with tokens := #[], implicit := #[] }

end Scanner

end ExprLex
