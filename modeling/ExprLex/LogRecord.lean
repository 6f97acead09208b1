/-!
# Log Records

What is written about work that was done: a level and a text.
-/

namespace ExprLex

/-- How much a record matters. -/
inductive LogLevel where
  /-- Details of the work. -/
  | debug
  /-- Results of the work. -/
  | info
  deriving DecidableEq

namespace LogLevel

/-- The name of a level. -/
def name : LogLevel → String
  | .debug => "DEBUG"
  | .info => "INFO"

/-- The place of a level on the scale of importance. -/
def rank : LogLevel → Int
  | .debug => 10
  | .info => 20

end LogLevel

/-- A record of work. -/
structure LogRecord where
  /-- How much the record matters. -/
  level : LogLevel
  /-- The text of the record. -/
  message : String
  deriving DecidableEq

end ExprLex
