/-!
# Decimal Text of Floating-Point Numbers

A floating-point number is written with the fewest decimal digits that read back as the same
number, and of those with the ones next to it.

The numbers that read back as a given one form an interval around it. Decimals of a given length
form a grid, and a grid has a point in the interval only if one of the number's two neighbours
on it lies there. All ends and grid points that matter are multiples of one negative power of
ten, so everything is done in natural numbers of that unit.
-/

namespace ExprLex.Decimal

/-! ## The interval of a number -/

/-- The decimal places of the unit: ten to the minus this divides a quarter of the least
positive number. -/
def unitPlaces : Nat := 1076

/-- A positive finite number, namely `mantissa` times two to the power of `power - 1074`. -/
structure Binary where
  /-- The mantissa. -/
  mantissa : Nat
  /-- The power of two over that of the least positive number. -/
  power : Nat
  /-- Whether the number below is only half as far away as the number above. -/
  narrowBelow : Bool
  deriving DecidableEq

/-- The number that bits without a sign stand for, if it is finite. -/
def Binary.ofBits (bits : Nat) : Binary :=
  let exponent := bits / Nat.pow 2 52
  let fraction := bits % Nat.pow 2 52
  if exponent = 0 then ⟨fraction, 0, false⟩
  else ⟨Nat.pow 2 52 + fraction, exponent - 1, fraction == 0 && exponent > 1⟩

/-- The decimals that read back as a number, in units. -/
structure Interval where
  /-- The number itself. -/
  value : Nat
  /-- The lower end. -/
  low : Nat
  /-- The upper end. -/
  high : Nat
  /-- Whether the ends belong to it. -/
  closed : Bool
  deriving DecidableEq

/-- The interval of a number. It reaches half-way to the neighbours, and a number with an even
mantissa also takes the ends. -/
def Binary.interval (x : Binary) : Interval :=
  let quarter := Nat.pow 2 x.power * Nat.pow 5 unitPlaces
  let centre := 4 * x.mantissa
  { value := centre * quarter
    low := (if x.narrowBelow then centre - 1 else centre - 2) * quarter
    high := (centre + 2) * quarter
    closed := x.mantissa % 2 == 0 }

namespace Interval

/-- Whether a decimal lies in the interval. -/
def contains (i : Interval) (n : Nat) : Bool :=
  if i.closed then i.low ≤ n && n ≤ i.high else i.low < n && n < i.high

/-- The multiple of `step` in the interval that is next to the number; of two that are equally
near, the even one. -/
def nearest? (i : Interval) (step : Nat) : Option Nat :=
  let index := i.value / step
  let below := index * step
  let above := below + step
  match i.contains below, i.contains above with
  | false, false => none
  | true, false => some below
  | false, true => some above
  | true, true =>
    if 2 * i.value < below + above then some below
    else if below + above < 2 * i.value then some above
    else if index % 2 = 0 then some below
    else some above

/-- The decimal of the fewest digits in the interval. Seventeen digits are always enough. -/
def shortest (i : Interval) : Nat :=
  let length := (Nat.toDigits 10 i.value).length
  let found := (List.range 17).findSome? fun more => i.nearest? (Nat.pow 10 (length - 1 - more))
  found.getD i.value

end Interval

/-! ## Layout -/

/-- Digits with a point; the first of them counts ten to the power of `leading`. There is at
least one digit on either side of the point. -/
def positional (digits : List Char) (leading : Int) : List Char :=
  if leading < 0 then
    '0' :: '.' :: List.replicate (leading.natAbs - 1) '0' ++ digits
  else
    let size := leading.toNat + 1
    let whole := digits.take size ++ List.replicate (size - digits.length) '0'
    let fraction := digits.drop size
    whole ++ '.' :: (if fraction.isEmpty then ['0'] else fraction)

/-- Digits with an exponent, which has a sign and at least two digits. -/
def scientific (digits : List Char) (leading : Int) : List Char :=
  let mantissa :=
    match digits with
    | first :: second :: rest => first :: '.' :: second :: rest
    | _ => digits
  let size := Nat.toDigits 10 leading.natAbs
  let padding := List.replicate (2 - size.length) '0'
  mantissa ++ 'e' :: (if leading < 0 then '-' else '+') :: (padding ++ size)

/-- The text of a positive number of units. Numbers from 1e-4 up to 1e16 have a point, and all
others an exponent. -/
def layout (units : Nat) : List Char :=
  let all := Nat.toDigits 10 units
  let digits := (all.reverse.dropWhile (· == '0')).reverse
  let leading : Int := all.length - 1 - unitPlaces
  if -4 ≤ leading ∧ leading < 16 then positional digits leading else scientific digits leading

/-- The text of a floating-point number. -/
def ofFloat (x : Float) : String :=
  if x.isNaN then "nan"
  else
    let bits := x.toBits.toNat
    let size := bits % Nat.pow 2 63
    let text :=
      if x.isInf then "inf"
      else if size = 0 then "0.0"
      else String.ofList (layout (Binary.ofBits size).interval.shortest)
    if size < bits then "-" ++ text else text

end ExprLex.Decimal
