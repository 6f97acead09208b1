import ExprLex.Operator
import ExprLex.Text.Quoted

/-!
# Operator Tables

A table says which operators a character may denote. Several operators may share one
character; a look-up narrows them down by tests and takes the first that is left, in the order
of registration. The standard table is read-only, and its copies can be extended.

A table is a list of characters with their operators. A character comes in behind the others when
something is registered under it for the first time, and keeps its place from then on. A copy is
made by registering everything again.
-/

namespace ExprLex

/-- A test that a look-up puts to operators. -/
abbrev OperatorTest := Operator → Bool

/-- The operators that characters may denote. -/
structure OperatorTable where
  /-- Characters with the operators registered under them, both in the order of registration. -/
  entries : List (Char × List Operator)
  /-- Whether registrations are refused. -/
  readOnly : Bool
  deriving DecidableEq

/-- A request that a table refuses. -/
inductive TableError where
  /-- A symbol to register an operator under is not a single character. -/
  | notSingle (symbol : String)
  /-- The table is read-only. -/
  | readOnly
  /-- A symbol has no operator that passes the tests; some characters have operators. -/
  | noOperator (symbol : String) (available : List Char)
  deriving DecidableEq

namespace TableError

/-- The text of a refusal. -/
def message : TableError → String
  | .notSingle symbol =>
    "Operator symbol must be a single character, got " ++ Text.quoted symbol
  | .readOnly =>
    "The default operator registry is read-only; use DEFAULT_REGISTRY.copy() to customize it"
  | .noOperator symbol available =>
    "No operator for " ++ Text.quoted symbol ++ ". Available: "
      ++ Text.bracketed (available.map fun c => Text.quoted (String.singleton c))

end TableError

namespace OperatorTable

/-! ## Reading -/

/-- The operators of a character, which are none if nothing was registered under it. -/
def variantsOf (table : OperatorTable) (c : Char) : List Operator :=
  (table.entries.lookup c).getD []

/-- The operators of a symbol; only single characters have any. -/
def variants (table : OperatorTable) (symbol : String) : List Operator :=
  match symbol.toList with
  | [c] => table.variantsOf c
  | _ => []

/-- The first operator of a symbol that passes all tests given. -/
def lookup (table : OperatorTable) (symbol : String) (tests : List (Option OperatorTest)) :
    Option Operator :=
  (table.variants symbol).find? fun op => tests.all fun test => test.all (· op)

/-- Whether a symbol has an operator. -/
def isOperator (table : OperatorTable) (symbol : String) : Bool :=
  !(table.variants symbol).isEmpty

/-- The characters that have operators, in the order of first registration. -/
def characters (table : OperatorTable) : List Char :=
  table.entries.map Prod.fst

/-- A table as it is shown. -/
def describe (table : OperatorTable) : String :=
  let shown := table.entries.map fun (c, ops) =>
    (Text.quoted (String.singleton c), Text.bracketed (ops.map Operator.describe))
  "OperatorRegistry(" ++ Text.braced shown ++ ")"

/-! ## The three roles of a symbol -/

/-- The sign that a symbol denotes in front of an operand. -/
def sign? (table : OperatorTable) (symbol : String) : Option Operator :=
  table.lookup symbol [some Operator.isUnary, some Operator.isRightAssoc]

/-- The operator that a symbol denotes between two operands. -/
def binary? (table : OperatorTable) (symbol : String) : Option Operator :=
  table.lookup symbol [some Operator.isBinary]

/-- The operator that a symbol denotes behind an operand. -/
def postfixOp? (table : OperatorTable) (symbol : String) : Option Operator :=
  table.lookup symbol [some Operator.isUnary, some Operator.isLeftAssoc]

/-! ## Registering -/

/-- Adds an operator behind the others of a character, which comes in last if it is new. -/
def addVariant (c : Char) (op : Operator) :
    List (Char × List Operator) → List (Char × List Operator)
  | [] => [(c, [op])]
  | (key, ops) :: rest =>
    if key = c then (key, ops ++ [op]) :: rest else (key, ops) :: addVariant c op rest

/-- Registers an operator under a symbol, which has to be a single character. -/
def register (table : OperatorTable) (symbol : String) (op : Operator) :
    Except TableError OperatorTable :=
  -- a read-only table refuses any symbol in the same way
  if table.readOnly then .error .readOnly
  else match symbol.toList with
    | [c] => .ok { table with entries := addVariant c op table.entries }
    | _ => .error (.notSingle symbol)

/-- Registers operators under symbols one after the other. -/
def registerAll (table : OperatorTable) :
    List (String × Operator) → Except TableError OperatorTable
  | [] => .ok table
  | (symbol, op) :: rest =>
    match table.register symbol op with
    | .ok extended => extended.registerAll rest
    | .error e => .error e

/-- The table without operators. -/
def empty : OperatorTable where
  entries := []
  readOnly := false

/-- The table that has each of the symbols with its operators. A symbol without operators adds
nothing, whatever its length. -/
def ofEntries (entries : List (String × List Operator)) : Except TableError OperatorTable :=
  empty.registerAll (entries.flatMap fun (symbol, ops) => ops.map (symbol, ·))

/-- A table in which everything is registered again, and which can be extended. -/
def copy (table : OperatorTable) : Except TableError OperatorTable :=
  ofEntries (table.entries.map fun (c, ops) => (String.singleton c, ops))

/-! ## The standard table -/

/-- The table of the six usual characters, read-only. -/
def standard : OperatorTable where
  entries :=
    [('+', [.plus, .addition]), ('-', [.minus, .subtraction]), ('*', [.multiplication]),
      ('/', [.division]), ('^', [.power]), ('!', [.factorial])]
  readOnly := true

/-- The standard operator of a symbol that passes all tests given. -/
def standardOperator (symbol : String) (tests : List (Option OperatorTest)) :
    Except TableError Operator :=
  match standard.lookup symbol tests with
  | some op => .ok op
  | none => .error (.noOperator symbol standard.characters)

end OperatorTable

end ExprLex
