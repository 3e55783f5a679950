import LuaBytecode.Bytes

/-!
# Integers in fields of a fixed width

Storing an integer and composing it again are inverse to each other, in both byte orders and for
every width: a field of a given width holds exactly the naturals below its capacity, each in one
way, and every run of bytes of that length stores one of them.
-/

set_option autoImplicit false

namespace LuaBytecode

namespace Bytes

/-- How many different integers a field of the given width can store. -/
def capacity (width : Nat) : Nat :=
  Nat.pow 256 width

theorem capacity_zero : capacity 0 = 1 := rfl

theorem capacity_succ (width : Nat) : capacity (width + 1) = 256 * capacity width :=
  Nat.pow_succ'

theorem capacity_pos (width : Nat) : 0 < capacity width :=
  Nat.pow_pos (by decide)

@[simp] theorem length_ofNat (width value : Nat) : (ofNat width value).length = width := by
  induction width generalizing value with
  | zero => rfl
  | succ width ih => simp only [ofNat, List.length_cons, ih]

theorem littleEndian_ofNat {width value : Nat} (fits : value < capacity width) :
    littleEndian (ofNat width value) = value := by
  induction width generalizing value with
  | zero =>
      rw [capacity_zero] at fits
      have isZero : value = 0 := by omega
      rw [isZero]
      rfl
  | succ width ih =>
      rw [capacity_succ] at fits
      have quotientFits : value / 256 < capacity width := by omega
      have lowByte : (UInt8.ofNat value).toNat = value % 256 := UInt8.toNat_ofNat'
      rw [ofNat, littleEndian, ih quotientFits, lowByte]
      exact Nat.mod_add_div value 256

theorem littleEndian_lt (bytes : Bytes) : littleEndian bytes < capacity bytes.length := by
  induction bytes with
  | nil => exact capacity_pos 0
  | cons byte rest ih =>
      have byteFits : byte.toNat < 256 := byte.toNat_lt
      rw [littleEndian, List.length_cons, capacity_succ]
      omega

theorem ofNat_littleEndian (bytes : Bytes) : ofNat bytes.length (littleEndian bytes) = bytes := by
  induction bytes with
  | nil => rfl
  | cons byte rest ih =>
      have byteFits : byte.toNat < 256 := byte.toNat_lt
      have quotient : (byte.toNat + 256 * littleEndian rest) / 256 = littleEndian rest := by omega
      have remainder : UInt8.ofNat (byte.toNat + 256 * littleEndian rest) = byte := by
        apply UInt8.toNat_inj.mp
        rw [UInt8.toNat_ofNat']
        omega
      rw [List.length_cons, ofNat, littleEndian, quotient, remainder, ih]

end Bytes

namespace ByteOrder

@[simp] theorem leastFirst_leastFirst (order : ByteOrder) (bytes : Bytes) :
    order.leastFirst (order.leastFirst bytes) = bytes := by
  cases order with
  | little => rfl
  | big => exact List.reverse_reverse bytes

@[simp] theorem length_field (order : ByteOrder) (width value : Nat) :
    (order.field width value).length = width := by
  simp [field]

theorem unsigned_field (order : ByteOrder) {width value : Nat}
    (fits : value < Bytes.capacity width) : order.unsigned (order.field width value) = value := by
  rw [unsigned, field, leastFirst_leastFirst, Bytes.littleEndian_ofNat fits]

theorem unsigned_lt (order : ByteOrder) (bytes : Bytes) :
    order.unsigned bytes < Bytes.capacity bytes.length := by
  simpa [unsigned] using Bytes.littleEndian_lt (order.leastFirst bytes)

/-- Every run of bytes is the field of the integer it stores, so no integer has two fields of one
width. -/
theorem field_unsigned (order : ByteOrder) (bytes : Bytes) :
    order.field bytes.length (order.unsigned bytes) = bytes := by
  have restored := Bytes.ofNat_littleEndian (order.leastFirst bytes)
  rw [length_leastFirst] at restored
  rw [field, unsigned, restored, leastFirst_leastFirst]

/-! ## Two's complement -/

/-- The field of the given width that stores a signed integer in two's complement. -/
def signedField (order : ByteOrder) (width : Nat) (value : Int) : Bytes :=
  order.field width (value % (Bytes.capacity width : Int)).toNat

@[simp] theorem length_signedField (order : ByteOrder) (width : Nat) (value : Int) :
    (order.signedField width value).length = width :=
  length_field order width _

/-- A signed integer in the lower or the upper half of a field's range is read back unchanged. -/
theorem signed_signedField (order : ByteOrder) {width : Nat} {value : Int}
    (above : -(Bytes.capacity width : Int) ≤ 2 * value)
    (below : 2 * value < (Bytes.capacity width : Int)) :
    order.signed (order.signedField width value) = value := by
  have positive := Bytes.capacity_pos width
  have residueBelow : (value % (Bytes.capacity width : Int)).toNat < Bytes.capacity width := by
    have lower := Int.emod_nonneg value (b := (Bytes.capacity width : Int)) (by omega)
    have upper := Int.emod_lt_of_pos value (b := (Bytes.capacity width : Int)) (by omega)
    omega
  have range : Nat.pow 256 (order.signedField width value).length = Bytes.capacity width := by
    rw [length_signedField]
    rfl
  rw [signed, range, signedField, unsigned_field order residueBelow]
  by_cases negative : value < 0
  · have residue : value % (Bytes.capacity width : Int) = value + Bytes.capacity width := by
      rw [← Int.add_emod_right]
      exact Int.emod_eq_of_lt (by omega) (by omega)
    rw [residue, if_neg (by omega)]
    omega
  · have residue : value % (Bytes.capacity width : Int) = value :=
      Int.emod_eq_of_lt (by omega) (by omega)
    rw [residue, if_pos (by omega)]
    omega

end ByteOrder

end LuaBytecode
