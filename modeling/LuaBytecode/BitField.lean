/-!
# Bit fields

A field is a contiguous range of bits of an integer word. Words may have any size and either sign;
a negative word is taken in two's complement with its sign bit repeated without end, so that every
field of it is still a natural number. A field may be asked for at any position: its mask is made
when a word is looked at, and it cannot be made where it has more digits than a number can have.
How many digits fit in memory is left open.
-/

set_option autoImplicit false

namespace LuaBytecode

/-- The bits `shift` to `shift + width - 1` of a word. -/
structure BitField where
  shift : Nat
  width : Nat
  deriving DecidableEq, Repr

/-- Why the mask of a field cannot be made: the field starts or extends below bit zero, or the mask
has more digits than a number can have. -/
inductive BitFieldError where
  | negativeShift
  | tooManyDigits
  deriving DecidableEq, Repr

def BitFieldError.message : BitFieldError → String
  | .negativeShift => "negative shift count"
  | .tooManyDigits => "too many digits in integer"

def digitBits : Nat := 30

/-- The most digits that a number can have. -/
def digitLimit : Nat := 0x1ffffffffffffff9

def digitsFor (bits : Nat) : Nat :=
  (bits + (digitBits - 1)) / digitBits

/-- Whether a number of so many digits can be moved up by a number of bits. -/
def checkShift (digits : Nat) (bits : Int) : Except BitFieldError Unit :=
  if bits < 0 then .error .negativeShift
  else if digits = 0 then .ok ()
  else if digitLimit < digits + digitsFor bits.toNat then .error .tooManyDigits
  else .ok ()

def maskWord (mask : Nat) : Int → Nat
  | .ofNat word => word &&& mask
  | .negSucc flipped => mask - (flipped &&& mask)

namespace BitField

/-- The word whose ones are exactly the bits of the field. -/
def mask (field : BitField) : Nat :=
  (1 <<< field.width - 1) <<< field.shift

def extract (field : BitField) (word : Int) : Nat :=
  maskWord field.mask word >>> field.shift

/-- Whether the mask of the field at any position can be made: `width` ones, moved up by `shift`
bits. -/
def checkMask (shift width : Int) : Except BitFieldError Unit := do
  checkShift 1 width
  checkShift (digitsFor width.toNat) shift

/-- The value of the field at any position in a word. -/
def extractAt (shift width word : Int) : Except BitFieldError Nat := do
  checkMask shift width
  return extract ⟨shift.toNat, width.toNat⟩ word

end BitField

end LuaBytecode
