import ExprLex.Tokenization

/-!
# Views of Token Streams

The tokens of an expression as points: the index of a token is its place, the bracket depth its
height. Points are grouped by the kind of the token, and the multiplications that were not
written are a group of their own.
-/

namespace ExprLex.Chart

/-- What a chart shows. -/
structure View where
  /-- The expression, for the title. -/
  expression : String
  /-- The tokens. -/
  tokens : List Token
  /-- The indices of the tokens to show as not written, ascending and distinct. Indices without
  a token have no point but are counted. -/
  implicit : List Int
  deriving DecidableEq

/-- A token in a chart. -/
structure Point where
  /-- The index of the token. -/
  index : Nat
  /-- The bracket depth at the token. -/
  depth : Int
  /-- The text of the token. -/
  symbol : String
  deriving DecidableEq

/-- A group of points. -/
inductive Group where
  | number
  | operator
  | bracket
  | implicit
  deriving DecidableEq

namespace Group

/-- All groups in the order of drawing. -/
def all : List Group :=
  [.number, .operator, .bracket, .implicit]

/-- The group of the tokens of a kind. -/
def ofKind : TokenKind → Group
  | .number => .number
  | .operator => .operator
  | .bracket => .bracket

end Group

/-- Adds an integer to an ascending list without repetitions. -/
def insertDistinct (n : Int) : List Int → List Int
  | [] => [n]
  | m :: rest =>
    if n < m then n :: m :: rest
    else if n = m then m :: rest
    else m :: insertDistinct n rest

/-- The integers of a list in ascending order and without repetitions. -/
def sortDistinct (ns : List Int) : List Int :=
  ns.foldr insertDistinct []

namespace View

/-- The view of given tokens. -/
def ofTokens (expression : String) (tokens : List Token) (implicit : List Int) : View where
  expression
  tokens
  implicit := sortDistinct implicit

/-- The view of an expression: of the given tokens, or else of those that it is read as. -/
def of (expression : String) (tokens : Option (List Token)) (implicit : List Int) :
    Except SyntaxError View :=
  match tokens with
  | some tokens => .ok (ofTokens expression tokens implicit)
  | none =>
    (tokenize OperatorTable.standard expression).map fun read =>
      ofTokens expression read.tokens (read.implicit.map Int.ofNat)

/-- The bracket depth at each token. -/
def depths (view : View) : List Int :=
  bracketDepths 0 view.tokens

/-- The group that a token at an index is shown in. -/
def groupOf (view : View) (index : Nat) (token : Token) : Group :=
  if view.implicit.contains (index : Int) then .implicit else .ofKind token.kind

/-- All points in order, with their groups. -/
def points (view : View) : List (Group × Point) :=
  (view.tokens.zip view.depths).zipIdx.map fun ((token, depth), index) =>
    (view.groupOf index token, ⟨index, depth, token.symbol⟩)

/-- The points of a group. -/
def pointsIn (view : View) (group : Group) : List Point :=
  (view.points.filter (·.1 == group)).map Prod.snd

/-- All groups with their points. -/
def groups (view : View) : List (Group × List Point) :=
  Group.all.map fun group => (group, view.pointsIn group)

/-- The greatest bracket depth, which is zero if there are no tokens. -/
def maxDepth (view : View) : Int :=
  view.depths.max?.getD 0

end View

end ExprLex.Chart
