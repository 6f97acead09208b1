import ExprLex.Scanner.Step

/-!
# Sessions

A session drives one scanner by hand with commands in any order. A command that fails leaves the
session where the failure left it, and the session goes on.
-/

namespace ExprLex

/-- A scanner and the table that it reads with. -/
structure Session where
  /-- The operators in use. -/
  table : OperatorTable
  /-- The state of the scanner. -/
  scanner : Scanner
  deriving DecidableEq

/-- What a piece of text is read as, whatever it is. -/
inductive Reading where
  | digit
  | point
  | left
  | right
  | operator
  deriving DecidableEq

/-- A command of a session. -/
inductive Command where
  /-- Forgets earlier work and reads a whole expression. -/
  | tokenize (expression : String)
  /-- Forgets earlier work. -/
  | reset
  /-- Reads characters one after the other. -/
  | feed (text : String)
  /-- Reads a text in the given way, without moving on. -/
  | read (reading : Reading) (text : String)
  /-- Commits the lexeme in progress. -/
  | commit
  /-- Inserts a multiplication that is not written. -/
  | insertImplicit
  /-- Checks that the expression may end. -/
  | finish
  /-- Registers an operator. -/
  | register (symbol : String) (op : Operator)
  /-- Overwrites the lexeme, the position and the tokens, and records brackets. -/
  | prime (pending : Pending) (symbol : String) (position : Int) (tokens : List Token)
      (brackets : List BracketLog.Change)
  deriving DecidableEq

/-- What a command answers when it does not fail. -/
inductive Reply where
  /-- The command only changes the state. -/
  | nothing
  /-- The tokens of an expression that was read. -/
  | tokens (tokens : List Token)
  /-- What was in progress before a token was committed. -/
  | committed (pending : Pending)
  deriving DecidableEq

/-- What a command answers when it fails. -/
inductive SessionError where
  /-- A character or the end of the expression is refused. -/
  | notAnExpression (reason : SyntaxError)
  /-- A registration is refused. -/
  | notRegistered (reason : TableError)
  deriving DecidableEq

namespace Reading

/-- The step that reads a text in the given way. -/
def step (table : OperatorTable) (text : String) : Reading → Scan Unit
  | .digit => Scanner.readDigit table text
  | .point => Scanner.readPoint table text
  | .left => Scanner.readLeft table text
  | .right => Scanner.readRight table text
  | .operator => Scanner.readOperator table text

end Reading

namespace Session

/-- The session at its start. -/
def start (table : OperatorTable) : Session where
  table
  scanner := .fresh

/-- Runs a step of the scanner and answers with its result. -/
def scan {α : Type} (session : Session) (step : Scan α) (reply : α → Reply) :
    Except SessionError Reply × Session :=
  match step session.scanner with
  | .ok result scanner => (.ok (reply result), { session with scanner })
  | .error e scanner => (.error (.notAnExpression e), { session with scanner })

/-- Overwrites the scanner's state by a function of it. -/
def update (session : Session) (change : Scanner → Scanner) :
    Except SessionError Reply × Session :=
  (.ok .nothing, { session with scanner := change session.scanner })

/-- Performs a command. -/
def perform (session : Session) : Command → Except SessionError Reply × Session
  | .tokenize expression =>
    session.scan (Scanner.readExpression session.table expression) Reply.tokens
  | .reset => session.update Scanner.reset
  | .feed text => session.scan (Scanner.feed session.table text.toList) fun _ => .nothing
  | .read reading text =>
    session.scan (reading.step session.table text) fun _ => .nothing
  | .commit =>
    (.ok (.committed session.scanner.pending),
      { session with scanner := session.scanner.commit session.table })
  | .insertImplicit => session.update Scanner.insertImplicit
  | .finish => session.scan Scanner.finish fun _ => .nothing
  | .register symbol op =>
    match session.table.register symbol op with
    | .ok table => (.ok .nothing, { session with table })
    | .error e => (.error (.notRegistered e), session)
  | .prime pending symbol position tokens changes =>
    session.update fun s =>
      { s with
        pending, symbol, position
        tokens := tokens.toArray
        brackets := s.brackets.applyAll changes }

/-- Performs commands one after the other, with the answer and the session after each. -/
def performAll (session : Session) : List Command → List (Except SessionError Reply × Session)
  | [] => []
  | command :: rest =>
    let (answer, after) := session.perform command
    (answer, after) :: after.performAll rest

end Session

end ExprLex
