import LuaBytecode.Double.Basic

/-!
# Decimal texts of doubles

Two ways to choose decimal digits for a double, and the layout of the chosen digits. The *shortest*
digits are the fewest that read back as the same double, and of those the nearest to it. The
*significant* digits are a given number of them, correctly rounded. Both work on the exact value.
-/

set_option autoImplicit false

namespace LuaBytecode

/-- The number `d.ddd * 10 ^ lead`, where the digits are those of the list and the point follows
the first of them. -/
structure Decimal where
  digits : List Char
  lead : Int
  deriving DecidableEq, Repr

namespace Decimal

/-- A digit list without its trailing zeros, of which at least one digit is kept. -/
def withoutTrailingZeros (digits : List Char) : List Char :=
  match (digits.reverse.dropWhile (· == '0')).reverse with
  | [] => ['0']
  | kept => kept

/-- The number `coefficient * 10 ^ unit`, without trailing zeros. -/
def ofScaled (coefficient : Nat) (unit : Int) : Decimal :=
  let digits := Nat.toDigits 10 coefficient
  ⟨withoutTrailingZeros digits, unit + (digits.length : Int) - 1⟩

/-- The number of decimal digits of a positive number; zero has none. -/
def decimalLength (number : Nat) : Nat :=
  if number = 0 then 0 else (Nat.toDigits 10 number).length

/-- The exponent of the power of ten at or next below a positive ratio. -/
def leadOf (numerator denominator : Nat) : Int :=
  if denominator ≤ numerator then (decimalLength (numerator / denominator) : Int) - 1
  else -(decimalLength ((denominator + numerator - 1) / numerator - 1) : Int)

/-- The ratio that is left of `numerator / denominator` after division by `10 ^ unit`. -/
def perUnit (numerator denominator : Nat) (unit : Int) : Nat × Nat :=
  if 0 ≤ unit then (numerator, denominator * Nat.pow 10 unit.toNat)
  else (numerator * Nat.pow 10 (-unit).toNat, denominator)

/-- The `count` significant digits nearest to a positive ratio, ties to even. -/
def significant (count : Nat) (numerator denominator : Nat) : Decimal :=
  let unit := leadOf numerator denominator - (count : Int) + 1
  let (scaled, divisor) := perUnit numerator denominator unit
  ofScaled (roundHalfEven scaled divisor) unit

/-- The digits a layout writes positionally, and what it writes after a whole number. -/
structure Style where
  -- The first exponent of the leading digit, from above, that needs an exponent mark.
  positionalBelow : Int
  -- What follows the digits of a whole number written positionally.
  wholeSuffix : List Char
  deriving DecidableEq, Repr

/-- The exponent of a scientific text: a sign and at least two digits. -/
def exponentChars (exponent : Int) : List Char :=
  let digits := Nat.toDigits 10 exponent.natAbs
  (if exponent < 0 then '-' else '+') :: (List.replicate (2 - digits.length) '0' ++ digits)

/-- The decimal as a text. Exponents from -4 up to the style's limit are written positionally. -/
def render (style : Style) (decimal : Decimal) : List Char :=
  if -4 ≤ decimal.lead ∧ decimal.lead < style.positionalBelow then
    if decimal.lead < 0 then
      '0' :: '.' :: (List.replicate (-decimal.lead - 1).toNat '0' ++ decimal.digits)
    else
      let whole := (decimal.lead + 1).toNat
      if decimal.digits.length ≤ whole then
        decimal.digits ++ List.replicate (whole - decimal.digits.length) '0' ++ style.wholeSuffix
      else decimal.digits.take whole ++ '.' :: decimal.digits.drop whole
  else
    let point := if decimal.digits.length ≤ 1 then [] else '.' :: decimal.digits.drop 1
    decimal.digits.take 1 ++ point ++ 'e' :: exponentChars decimal.lead

end Decimal

namespace Double

/-- Quarter units of the least significant bit: the value and the two ends of the interval of reals
that round to it, over a common denominator. The lower end is nearer where the exponent changes. -/
structure Interval where
  lower : Nat
  value : Nat
  upper : Nat
  denominator : Nat
  closed : Bool
  deriving DecidableEq, Repr

/-- The interval of reals that round to a finite positive double; the ends belong to it exactly
when the significand is even. -/
def interval (value : Double) : Interval :=
  let size := value.magnitude
  let below := if value.fraction.val = 0 ∧ 1 < value.exponent.val then 1 else 2
  let exponent := size.exponent - 2
  let factor := 1 <<< exponent.toNat
  { lower := (4 * size.coefficient - below) * factor
    value := 4 * size.coefficient * factor
    upper := (4 * size.coefficient + 2) * factor
    denominator := 1 <<< (-exponent).toNat
    closed := size.coefficient % 2 == 0 }

namespace Interval

/-- Whether `candidate * 10 ^ unit` rounds to the double. -/
def holds (interval : Interval) (unit : Int) (candidate : Nat) : Bool :=
  let (lower, divisor) := Decimal.perUnit interval.lower interval.denominator unit
  let (upper, _) := Decimal.perUnit interval.upper interval.denominator unit
  let point := candidate * divisor
  if interval.closed then decide (lower ≤ point ∧ point ≤ upper)
  else decide (lower < point ∧ point < upper)

/-- The nearest number with `count` significant digits that rounds to the double, if one does. Its
two neighbours on that decimal grid are tried, and a tie goes to the even one. -/
def candidate? (interval : Interval) (count : Nat) : Option Decimal :=
  let unit := Decimal.leadOf interval.value interval.denominator - (count : Int) + 1
  let (scaled, divisor) := Decimal.perUnit interval.value interval.denominator unit
  let near := roundHalfEven scaled divisor
  let below := scaled / divisor
  let far := if near = below then below + 1 else below
  if interval.holds unit near then some (Decimal.ofScaled near unit)
  else if interval.holds unit far then some (Decimal.ofScaled far unit)
  else none

end Interval

/-- The shortest digits of a finite double that is not zero. Seventeen digits always suffice. -/
def shortest (value : Double) : Decimal :=
  let interval := value.interval
  ((List.range 16).findSome? fun shorter => interval.candidate? (shorter + 1)).getD
    (Decimal.significant 17 interval.value interval.denominator)

def significant (count : Nat) (value : Double) : Decimal :=
  let interval := value.interval
  Decimal.significant count interval.value interval.denominator

/-- A double as a text, given how to choose the digits of a number that is not zero. -/
def render (style : Decimal.Style) (choose : Double → Decimal) (value : Double) : List Char :=
  let sign := if value.negative then ['-'] else []
  if value.isNaN then ['n', 'a', 'n']
  else if !value.isFinite then sign ++ ['i', 'n', 'f']
  else if value.magnitude.coefficient = 0 then sign ++ Decimal.render style ⟨['0'], 0⟩
  else sign ++ Decimal.render style (choose value)

end Double

end LuaBytecode
