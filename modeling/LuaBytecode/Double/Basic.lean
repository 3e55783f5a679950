/-!
# Double-precision numbers

A double is kept as the three fields of its 64-bit pattern, and its arithmetic is done on exact
dyadic rationals followed by one rounding to the nearest double, ties to even. Nothing here depends
on the machine's floating-point unit.

The constant `0x10000000000000` is `2 ^ 52`: there are that many fractions, and a significand of a
normal number has that much added to its fraction.
-/

set_option autoImplicit false

namespace LuaBytecode

/-- The quotient rounded to the nearest natural number, a tie going to the even one. -/
def roundHalfEven (numerator denominator : Nat) : Nat :=
  let quotient := numerator / denominator
  let twice := 2 * (numerator % denominator)
  if twice < denominator then quotient
  else if denominator < twice then quotient + 1
  else if quotient % 2 = 0 then quotient
  else quotient + 1

/-- The non-negative dyadic rational `coefficient * 2 ^ exponent`. -/
structure Magnitude where
  coefficient : Nat
  exponent : Int
  deriving DecidableEq, Repr

namespace Magnitude

/-- The coefficient that the same number has with the lower exponent `exponent - drop`. -/
def lowered (value : Magnitude) (drop : Nat) : Nat :=
  value.coefficient <<< drop

def add (left right : Magnitude) : Magnitude :=
  let exponent := min left.exponent right.exponent
  ⟨left.lowered (left.exponent - exponent).toNat + right.lowered (right.exponent - exponent).toNat,
    exponent⟩

def scale (value : Magnitude) (power : Int) : Magnitude :=
  ⟨value.coefficient, value.exponent + power⟩

end Magnitude

/-- A double-precision number: its sign bit, exponent field and fraction field. -/
structure Double where
  negative : Bool
  exponent : Fin 2048
  fraction : Fin 0x10000000000000
  deriving DecidableEq, Repr

namespace Double

/-- The double with the given 64-bit pattern. Higher bits of `bits` are ignored. -/
def ofBits (bits : Nat) : Double where
  negative := bits / 0x8000000000000000 % 2 == 1
  exponent := ⟨bits / 0x10000000000000 % 2048, Nat.mod_lt _ (by decide)⟩
  fraction := ⟨bits % 0x10000000000000, Nat.mod_lt _ (by decide)⟩

def toBits (value : Double) : Nat :=
  (if value.negative then 0x8000000000000000 else 0) + value.exponent.val * 0x10000000000000
    + value.fraction.val

def zero : Double := ⟨false, 0, ⟨0, by decide⟩⟩

def infinity : Double := ⟨false, 2047, ⟨0, by decide⟩⟩

def isFinite (value : Double) : Bool :=
  value.exponent != 2047

def isNaN (value : Double) : Bool :=
  value.exponent == 2047 && value.fraction.val != 0

/-- The same pattern with the sign bit set. -/
def negated (value : Double) : Double :=
  { value with negative := true }

def magnitude (value : Double) : Magnitude :=
  if value.exponent.val = 0 then ⟨value.fraction.val, -1074⟩
  else ⟨0x10000000000000 + value.fraction.val, (value.exponent.val : Int) - 1075⟩

/-- The integer that a finite double is exactly equal to, if it is one. -/
def toInteger? (value : Double) : Option Int :=
  let size := value.magnitude
  let whole : Option Nat :=
    if 0 ≤ size.exponent then some (size.coefficient <<< size.exponent.toNat)
    else
      let divisor := 1 <<< (-size.exponent).toNat
      if size.coefficient % divisor = 0 then some (size.coefficient / divisor) else none
  whole.map fun absolute => if value.negative then -(absolute : Int) else (absolute : Int)

/-- The double whose significand is `coefficient` with the exponent `exponent`, where the
coefficient is below `2 ^ 53`, and at least `2 ^ 52` unless the exponent is the least one. It is
absent when the exponent is too large for a finite double. -/
def ofSignificand? (negative : Bool) (coefficient : Nat) (exponent : Int) : Option Double :=
  if coefficient < 0x10000000000000 then
    some ⟨negative, 0, ⟨coefficient % 0x10000000000000, Nat.mod_lt _ (by decide)⟩⟩
  else
    let field := (exponent + 1075).toNat
    if inRange : field < 2047 then
      some ⟨negative, ⟨field, by omega⟩,
        ⟨coefficient % 0x10000000000000, Nat.mod_lt _ (by decide)⟩⟩
    else none

/-- The double nearest to `size`, ties to even, or nothing when that is past the largest one. -/
def nearest? (negative : Bool) (size : Magnitude) : Option Double :=
  let unit := max (-1074) (size.exponent + (Nat.log2 size.coefficient : Int) - 52)
  let coefficient :=
    if unit ≤ size.exponent then size.coefficient <<< (size.exponent - unit).toNat
    else roundHalfEven size.coefficient (1 <<< (unit - size.exponent).toNat)
  if coefficient < 0x20000000000000 then ofSignificand? negative coefficient unit
  else ofSignificand? negative (coefficient / 2) (unit + 1)

/-- The double nearest to `size`, where a size past the largest double becomes an infinity. -/
def nearest (size : Magnitude) : Double :=
  (nearest? false size).getD infinity

def ofInteger? (value : Int) : Option Double :=
  nearest? (decide (value < 0)) ⟨value.natAbs, 0⟩

end Double

end LuaBytecode
