import ExprLex.Decimal
import ExprLex.Token

/-!
# Candidates for Tokens

A value that is offered as a token need not be one. Only tokens have a kind; any other value is
refused, and shown in the refusal.
-/

namespace ExprLex

/-- A plain value. -/
inductive Value where
  /-- No value. -/
  | nothing
  /-- A truth value. -/
  | truth (value : Bool)
  /-- An integer. -/
  | integer (value : Int)
  /-- A floating-point number. -/
  | float (value : Float)
  /-- A text. -/
  | text (value : String)
  /-- A row of values. -/
  | list (values : List Value)
  /-- Values by name. -/
  | record (fields : List (String × Value))
  deriving Inhabited

mutual

/-- A plain value as it is shown. -/
def Value.describe : Value → String
  | .nothing => "None"
  | .truth true => "True"
  | .truth false => "False"
  | .integer n => toString n
  | .float x => Decimal.ofFloat x
  | .text t => Text.quoted t
  | .list values => Text.bracketed (Value.describeAll values)
  | .record fields => Text.braced (Value.describeFields fields)

/-- Plain values as they are shown. -/
def Value.describeAll : List Value → List String
  | [] => []
  | value :: rest => value.describe :: Value.describeAll rest

/-- Named values as they are shown. -/
def Value.describeFields : List (String × Value) → List (String × String)
  | [] => []
  | (key, value) :: rest =>
    (Text.quoted key, value.describe) :: Value.describeFields rest

end

/-- A value that is offered as a token. -/
inductive Candidate where
  /-- A token. -/
  | token (content : Token)
  /-- Any other value. -/
  | other (value : Value)

/-- A value is not a token. -/
structure NotAToken where
  /-- The value. -/
  value : Value

/-- The text of the refusal. -/
def NotAToken.message (e : NotAToken) : String :=
  "Not a token: " ++ e.value.describe

/-- The kind of a value that is offered as a token. -/
def Candidate.kind : Candidate → Except NotAToken TokenKind
  | token content => .ok content.kind
  | other value => .error ⟨value⟩

end ExprLex
