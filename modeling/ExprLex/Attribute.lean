/-!
# Attributes

Nested named values, the form in which figures and settings are handed on.
-/

namespace ExprLex

/-- The value of an attribute. -/
inductive Attribute where
  /-- A text. -/
  | text (value : String)
  /-- An integer. -/
  | integer (value : Int)
  /-- An integer divided by a power of ten. -/
  | decimal (value : Int) (places : Nat)
  /-- A truth value. -/
  | flag (value : Bool)
  /-- A row of values. -/
  | list (values : List Attribute)
  /-- Values by name. -/
  | record (fields : List (String × Attribute))

namespace Attribute

/-- A row of integers. -/
def integers (ns : List Int) : Attribute :=
  .list (ns.map .integer)

/-- A row of texts. -/
def texts (ts : List String) : Attribute :=
  .list (ts.map .text)

end Attribute

end ExprLex
