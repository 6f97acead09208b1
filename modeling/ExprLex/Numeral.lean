import ExprLex.Text.Digit

/-!
# Numerals

The texts that denote floating-point numbers, and their values. The digits may be those of any
script. A numeral is a sign and either a decimal with an optional exponent or one of the words
for infinity and for no number at all.
-/

namespace ExprLex

/-- A numeral as it is written. -/
inductive Numeral where
  /-- The coefficient times ten to the exponent. -/
  | decimal (negative : Bool) (coefficient : Nat) (exponent : Int)
  /-- An infinity. -/
  | infinite (negative : Bool)
  /-- No number at all. -/
  | notANumber
  deriving DecidableEq

namespace Numeral

/-! ## Reading -/

/-- The values of the digits at the front of a text. -/
def leadingDigits (cs : List Char) : List Nat :=
  (cs.takeWhile Text.isDigit).filterMap Text.digitValue?

/-- A text without the digits at its front. -/
def afterDigits (cs : List Char) : List Char :=
  cs.dropWhile Text.isDigit

/-- The number that digits denote. -/
def ofDigits (digits : List Nat) : Nat :=
  digits.foldl (fun value digit => 10 * value + digit) 0

/-- Cuts a sign off the front of a text and says whether it is negative. -/
def splitSign : List Char → Bool × List Char
  | '-' :: rest => (true, rest)
  | '+' :: rest => (false, rest)
  | cs => (false, cs)

/-- The exponent that a text denotes: nothing at all, or the letter E, a sign and digits. -/
def exponent? : List Char → Option Int
  | [] => some 0
  | letter :: cs =>
    if letter.toLower = 'e' then
      let (negative, unsigned) := splitSign cs
      let digits := leadingDigits unsigned
      if digits.isEmpty || !(afterDigits unsigned).isEmpty then none
      else if negative then some (-(ofDigits digits : Int))
      else some (ofDigits digits)
    else none

/-- The decimal that a text without a sign denotes: digits, at most one point anywhere among
them, and an exponent. -/
def decimal? (negative : Bool) (cs : List Char) : Option Numeral :=
  let whole := leadingDigits cs
  let (fraction, rest) :=
    match afterDigits cs with
    | '.' :: rest => (leadingDigits rest, afterDigits rest)
    | rest => ([], rest)
  if whole.isEmpty && fraction.isEmpty then none
  else (exponent? rest).map fun exponent =>
    .decimal negative (ofDigits (whole ++ fraction)) (exponent - fraction.length)

/-- The numeral that a text denotes. -/
def read? (text : String) : Option Numeral :=
  let (negative, cs) := splitSign text.toList
  let word := String.ofList (cs.map Char.toLower)
  if word = "inf" ∨ word = "infinity" then some (.infinite negative)
  else if word = "nan" then some .notANumber
  else decimal? negative cs

/-! ## Value -/

/-- The floating-point number next to a numeral; what is too great becomes infinite and what is
too small becomes zero, with the sign kept. -/
def value : Numeral → Float
  | .decimal negative coefficient exponent =>
    let size := Float.ofScientific coefficient (decide (exponent < 0)) exponent.natAbs
    if negative then -size else size
  | .infinite negative => if negative then -(1.0 / 0.0) else 1.0 / 0.0
  | .notANumber => 0.0 / 0.0

end Numeral

/-- The text of a number denotes no number. -/
structure NotANumber where
  /-- The text. -/
  symbol : String
  deriving DecidableEq

/-- The message about a text that denotes no number. -/
def NotANumber.message (e : NotANumber) : String :=
  s!"'{e.symbol}' is not a number"

/-- The value of a number token with the given text. -/
def numberValue (symbol : String) : Except NotANumber Float :=
  match Numeral.read? symbol with
  | some numeral => .ok numeral.value
  | none => .error ⟨symbol⟩

end ExprLex
