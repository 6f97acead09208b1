import ExprLex.Operator
import ExprLex.Text.Quoted

/-!
# Precedence Conventions

How tightly the operators bind. In the standard convention a power binds tighter than a sign, in
the other one a sign binds tighter than a power.
-/

namespace ExprLex

/-- A convention of precedence. -/
inductive Convention where
  | standard
  | signFirst
  deriving DecidableEq

/-- No convention has the given name. -/
structure UnknownConvention where
  /-- The name asked for. -/
  name : String
  deriving DecidableEq

namespace Convention

/-- All conventions. -/
def all : List Convention :=
  [.standard, .signFirst]

/-- The name of a convention. -/
def name : Convention → String
  | .standard => "standard"
  | .signFirst => "sign_first"

/-- The convention of a name. -/
def ofName (name : String) : Except UnknownConvention Convention :=
  match all.find? (·.name == name) with
  | some convention => .ok convention
  | none => .error ⟨name⟩

/-- How tightly an operator binds; a higher level binds tighter. -/
def level : Convention → Operator → Nat
  | _, .addition | _, .subtraction => 2
  | _, .multiplication | _, .division => 3
  | .standard, .plus | .standard, .minus => 4
  | .standard, .power => 5
  | .signFirst, .power => 4
  | .signFirst, .plus | .signFirst, .minus => 5
  | _, .factorial => 6

/-- The operators with their levels, the loosest first. -/
def table (convention : Convention) : List (Operator × Nat) :=
  (Operator.all.mergeSort fun a b => decide (convention.level a ≤ convention.level b)).map
    fun op => (op, convention.level op)

end Convention

/-- The text of the refusal. -/
def UnknownConvention.message (e : UnknownConvention) : String :=
  s!"Unknown precedence: {e.name}. Available: "
    ++ Text.bracketed (Convention.all.map fun c => Text.quoted c.name)

end ExprLex
