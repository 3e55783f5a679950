import LuaBytecode.BitField
import LuaBytecode.Double.Basic
import LuaBytecode.Header.Reader

/-!
# Numbers

A number constant is an integer or a double, as the header says. A stored double is simplified when
it is read: an exponent field of zeros stands for positive zero and one of ones for positive
infinity, whatever the other bits are.
-/

set_option autoImplicit false

namespace LuaBytecode

inductive Number where
  | integer (value : Int)
  | double (value : Double)
  deriving DecidableEq, Repr

/-- The fields of a 64-bit floating-point pattern. -/
def signBit : BitField := ⟨63, 1⟩

def exponentBits : BitField := ⟨52, 11⟩

def fractionBits : BitField := ⟨0, 52⟩

namespace Double

/-- The double of a 64-bit pattern, computed from its fields: the fraction is divided by `2 ^ 52`,
added to one and scaled by the power of two of the exponent, each step rounding to the nearest
double. Bits of the word past the sign are ignored. -/
def ofWord (word : Int) : Double :=
  let exponent := exponentBits.extract word
  if exponent = 0 then zero
  else if exponent = 2047 then infinity
  else
    let mantissa := nearest ⟨fractionBits.extract word, -52⟩
    let significand := nearest (Magnitude.add ⟨1, 0⟩ mantissa.magnitude)
    let value := nearest (significand.magnitude.scale ((exponent : Int) - 1023))
    if signBit.extract word = 0 then value else value.negated

/-- The double of a 64-bit pattern, by taking the pattern as it is. -/
def ofPattern (pattern : Nat) : Double :=
  let value := ofBits pattern
  if value.exponent.val = 0 then zero
  else if value.exponent.val = 2047 then infinity
  else value

/-- The double equal to the single-precision number with the given 32-bit pattern. -/
def ofSinglePattern (pattern : Nat) : Double :=
  let exponent := pattern / 0x800000 % 256
  let fraction := pattern % 0x800000
  if exponent = 0 then zero
  else if exponent = 255 then infinity
  else
    ⟨pattern / 0x80000000 % 2 == 1, ⟨(exponent + 896) % 2048, Nat.mod_lt _ (by decide)⟩,
      ⟨fraction * 0x20000000 % 0x10000000000000, Nat.mod_lt _ (by decide)⟩⟩

end Double

namespace Number

/-- The number stored in `bytes` under the given header. Eight and four bytes hold a double or a
single-precision number; of any other width the low eight bytes are taken as a double. -/
def ofBytes (header : Header) (bytes : Bytes) : Number :=
  if header.integralNumbers then .integer (header.order.signed bytes)
  else
    let pattern := header.order.unsigned bytes
    if header.widths.number = 8 then .double (Double.ofPattern pattern)
    else if header.widths.number = 4 then .double (Double.ofSinglePattern pattern)
    else .double (Double.ofWord (pattern % 0x10000000000000000 : Nat))

def read (header : Header) : Reader Number := do
  let stored ← Reader.field header.widths.number
  return ofBytes header stored

end Number

end LuaBytecode
