import LuaBytecode.Proofs.DoubleDecoding
import Mathlib.Data.Int.ModEq

/-!
# The numbers that can be read

Whatever bytes stand in the field of a number, reading it gives a number of a known kind: where
numbers are integers, the two's complement integer of the field, and otherwise a positive zero, a
positive infinity or a normal double. Which of these it is shows in the exponent field alone, of a
single-precision pattern if the field has four bytes and of a double-precision one in all other
cases.
-/

set_option autoImplicit false

namespace LuaBytecode

/-! ## Fields -/

/-- A field of any width, zero included, is taken whole from the bytes at the cursor. -/
theorem Reader.stored_of_takes_field {width : Int} {buffer : Buffer} {start stop : Nat}
    {stored : Bytes} (taken : (field width).Takes buffer start stored stop) :
    ∃ count : Nat, width = count ∧ stored = (buffer.toList.drop start).take count ∧
      stop = start + count ∧ stop ≤ buffer.size := by
  unfold field at taken
  split at taken
  next => exact absurd taken takes_fail
  next nonneg =>
    simp only [Takes, bytes] at taken
    split at taken
    next inside =>
      obtain ⟨found, rfl⟩ := taken
      rw [← Except.ok.inj found, toList_extract]
      exact ⟨width.toNat, by omega, rfl, rfl, inside⟩
    next => cases taken.1

/-- The two's complement integer of a field is the one near zero that the number of all values of
the field does not tell from the unsigned integer. -/
theorem ByteOrder.signed_range (order : ByteOrder) (bytes : Bytes) :
    -2 ^ (8 * bytes.length - 1) ≤ order.signed bytes ∧
      order.signed bytes < 2 ^ (8 * bytes.length - 1) ∧
      order.signed bytes ≡ order.unsigned bytes [ZMOD 2 ^ (8 * bytes.length)] := by
  have range : Nat.pow 256 bytes.length = 2 ^ (8 * bytes.length) := by
    rw [Nat.pow_mul]
    rfl
  have below : order.unsigned bytes < 2 ^ (8 * bytes.length) := range ▸ order.unsigned_lt bytes
  -- The halves are equal unless there are no bytes, where the only value is zero.
  have halves : 2 ^ (8 * bytes.length) ≤ 2 * 2 ^ (8 * bytes.length - 1) := by
    rw [← Nat.pow_succ']
    exact Nat.pow_le_pow_right (by decide) (by omega)
  have castRange : ((2 ^ (8 * bytes.length) : Nat) : Int) = 2 ^ (8 * bytes.length) :=
    Int.natCast_pow 2 _
  have castHalf : ((2 ^ (8 * bytes.length - 1) : Nat) : Int) = 2 ^ (8 * bytes.length - 1) :=
    Int.natCast_pow 2 _
  simp only [signed, range, ← castRange, ← castHalf]
  refine ⟨?_, ?_, ?_⟩
  · split <;> omega
  · split <;> omega
  · split
    next => exact Int.ModEq.refl _
    next => exact Int.sub_emod_right _ _

/-! ## Floating-point patterns -/

/-- Where a floating-point pattern has its fields, and what is taken from the exponent field to get
the power of two of the last digit of the fraction. -/
structure FloatFormat where
  sign : BitField
  exponent : BitField
  fraction : BitField
  lastPlace : Nat

namespace FloatFormat

def single : FloatFormat :=
  ⟨⟨31, 1⟩, ⟨23, 8⟩, ⟨0, 23⟩, 150⟩

def double : FloatFormat :=
  ⟨signBit, exponentBits, fractionBits, 1075⟩

/-- The number of a pattern whose exponent field is neither zero nor all ones. -/
def normalValue (format : FloatFormat) (pattern : Nat) : ℚ :=
  (-1) ^ format.sign.extract pattern *
    (2 ^ format.fraction.width + (format.fraction.extract pattern : ℚ)) *
    2 ^ ((format.exponent.extract pattern : ℤ) - format.lastPlace)

/-- The double that a pattern stands for when it is read: the exponent field alone decides whether
it is zero or infinite, and otherwise the pattern is taken at its value. -/
structure Represents (format : FloatFormat) (pattern : Nat) (value : Double) : Prop where
  zero : value = .zero ↔ format.exponent.extract pattern = 0
  infinity : value = .infinity ↔
    format.exponent.extract pattern = 2 ^ format.exponent.width - 1
  normal : format.exponent.extract pattern ≠ 0 →
    format.exponent.extract pattern ≠ 2 ^ format.exponent.width - 1 →
    value.IsNormal ∧ value.exact = format.normalValue pattern

end FloatFormat

namespace Double

/-- Neither zero nor large enough for a full significand. -/
def IsSubnormal (value : Double) : Prop :=
  value.exponent.val = 0 ∧ value.fraction.val ≠ 0

theorem IsNormal.ne_zero {value : Double} (normal : value.IsNormal) : value ≠ zero := by
  rintro rfl
  exact absurd normal.1 (by decide)

theorem IsNormal.ne_infinity {value : Double} (normal : value.IsNormal) : value ≠ infinity := by
  rintro rfl
  exact absurd normal.2 (by decide)

theorem IsSimple.not_isNaN {value : Double} (simple : value.IsSimple) : value.isNaN = false := by
  rcases simple with rfl | rfl | ⟨-, finite⟩
  · rfl
  · rfl
  · have notMax : value.exponent ≠ 2047 := by
      intro equal
      rw [equal] at finite
      exact absurd finite (by decide)
    simp [isNaN, notMax]

theorem IsSimple.not_isSubnormal {value : Double} (simple : value.IsSimple) :
    ¬value.IsSubnormal := by
  rintro ⟨small, nonzero⟩
  rcases simple with rfl | rfl | ⟨positive, -⟩
  · exact nonzero rfl
  · exact absurd small (by decide)
  · omega

theorem IsSimple.ne_negated {value : Double} (simple : value.IsSimple) :
    value ≠ zero.negated ∧ value ≠ infinity.negated := by
  rcases simple with rfl | rfl | ⟨positive, finite⟩
  · decide
  · decide
  · constructor
    · rintro rfl
      exact absurd positive (by decide)
    · rintro rfl
      exact absurd finite (by decide)

theorem IsNormal.exact_eq {value : Double} (normal : value.IsNormal) {sign : Nat} (bit : sign < 2)
    (signed : value.negative = (sign == 1)) :
    value.exact = (-1) ^ sign * (2 ^ 52 + (value.fraction.val : ℚ)) *
      2 ^ ((value.exponent.val : ℤ) - 1075) := by
  have size := normal.exact_magnitude
  obtain rfl | rfl : sign = 0 ∨ sign = 1 := by omega
  · rw [exact, signed, if_neg (by decide), size, pow_zero, one_mul]
  · rw [exact, signed, if_pos (by decide), size, pow_one]
    ring

/-- Where the exponent field is neither zero nor all ones, the fields are widened one by one. -/
theorem ofSinglePattern_eq (pattern : Nat) :
    ∃ widened : Double,
      ofSinglePattern pattern =
        (if pattern / 0x800000 % 256 = 0 then zero
        else if pattern / 0x800000 % 256 = 255 then infinity
        else widened) ∧
      widened.negative = (pattern / 0x80000000 % 2 == 1) ∧
      widened.exponent.val = pattern / 0x800000 % 256 + 896 ∧
      widened.fraction.val = pattern % 0x800000 * 0x20000000 := by
  refine ⟨_, rfl, rfl, Nat.mod_eq_of_lt ?_, Nat.mod_eq_of_lt ?_⟩
  · omega
  · have := Nat.mod_lt pattern (show 0 < 0x800000 by decide)
    omega

end Double

namespace FloatFormat

/-- Where a reading goes by the exponent field, only what it gives in the normal case is left to be
said. -/
theorem represents_of_cases {format : FloatFormat} {pattern : Nat} {value : Double}
    (normal : Double) (wide : 2 ^ format.exponent.width - 1 ≠ 0)
    (read : value =
      if format.exponent.extract pattern = 0 then .zero
      else if format.exponent.extract pattern = 2 ^ format.exponent.width - 1 then .infinity
      else normal)
    (taken : format.exponent.extract pattern ≠ 0 →
      format.exponent.extract pattern ≠ 2 ^ format.exponent.width - 1 →
      normal.IsNormal ∧ normal.exact = format.normalValue pattern) :
    format.Represents pattern value := by
  by_cases isZero : format.exponent.extract pattern = 0
  · rw [if_pos isZero] at read
    subst read
    refine ⟨iff_of_true rfl isZero, iff_of_false (by decide) ?_,
      fun notZero => absurd isZero notZero⟩
    rw [isZero]
    exact wide.symm
  by_cases isMax : format.exponent.extract pattern = 2 ^ format.exponent.width - 1
  · rw [if_neg isZero, if_pos isMax] at read
    subst read
    exact ⟨iff_of_false (by decide) isZero, iff_of_true rfl isMax,
      fun _ notMax => absurd isMax notMax⟩
  · rw [if_neg isZero, if_neg isMax] at read
    subst read
    have normal := (taken isZero isMax).1
    exact ⟨iff_of_false normal.ne_zero isZero, iff_of_false normal.ne_infinity isMax, taken⟩

theorem double_represents (pattern : Nat) :
    double.Represents pattern (Double.ofPattern pattern) := by
  refine represents_of_cases (Double.ofBits pattern) (by decide) ?_ ?_
  · rw [Double.ofPattern, Double.exponent_ofBits]
    rfl
  · intro notZero notMax
    have normal : (Double.ofBits pattern).IsNormal := by
      have below := (Double.ofBits pattern).exponent.isLt
      have field := Double.exponent_ofBits pattern
      simp only [double] at notZero notMax
      exact ⟨by omega, by simp only [exponentBits] at *; omega⟩
    refine ⟨normal, ?_⟩
    have bit : signBit.extract pattern < 2 := by
      rw [Double.extract_signBit]
      omega
    rw [normal.exact_eq bit (by rw [Double.extract_signBit]; rfl), Double.exponent_ofBits,
      Double.fraction_ofBits]
    rfl

/-- A single-precision pattern has the same value as the double whose exponent field is larger by
the difference of the biases, and whose fraction goes on with zeros. -/
theorem single_represents (pattern : Nat) :
    single.Represents pattern (Double.ofSinglePattern pattern) := by
  have sign : single.sign.extract pattern = pattern / 0x80000000 % 2 := by
    rw [BitField.extract_natCast, Nat.shiftRight_eq_div_pow]
    rfl
  have exponent : single.exponent.extract pattern = pattern / 0x800000 % 256 := by
    rw [BitField.extract_natCast, Nat.shiftRight_eq_div_pow]
    rfl
  have fraction : single.fraction.extract pattern = pattern % 0x800000 := by
    rw [BitField.extract_natCast]
    rfl
  obtain ⟨widened, read, signed, exponentField, fractionField⟩ := Double.ofSinglePattern_eq pattern
  refine represents_of_cases widened (by decide) ?_ ?_
  · rw [exponent]
    exact read
  · rw [exponent]
    intro notZero notMax
    have normal : widened.IsNormal := by
      rw [Double.IsNormal, exponentField]
      simp only [single] at notMax
      omega
    refine ⟨normal, ?_⟩
    have power : (2 : ℚ) ^ (((pattern / 0x800000 % 256 + 896 : ℕ) : ℤ) - 1075) =
        2 ^ (((pattern / 0x800000 % 256 : ℕ) : ℤ) - 150) / 2 ^ 29 := by
      have place : ((pattern / 0x800000 % 256 + 896 : ℕ) : ℤ) - 1075 =
          ((pattern / 0x800000 % 256 : ℕ) : ℤ) - 150 - (29 : ℕ) := by omega
      rw [place, zpow_sub₀ two_ne_zero, zpow_natCast]
    rw [normal.exact_eq (Nat.mod_lt _ (by decide)) signed, exponentField, fractionField, power,
      normalValue, sign, exponent, fraction]
    simp only [single]
    push_cast
    ring

end FloatFormat

/-! ## Numbers -/

theorem Number.ofBytes_integral {header : Header} (integral : header.integral ≠ 0) (bytes : Bytes) :
    ofBytes header bytes = .integer (header.order.signed bytes) := by
  rw [ofBytes, if_pos (by simpa [Header.integralNumbers] using integral)]

/-- A number that is no integer is read from a pattern of single precision if it has four bytes, and
otherwise from one of double precision. -/
theorem Number.ofBytes_float {header : Header} (float : header.integral = 0) {bytes : Bytes}
    (width : header.widths.number = bytes.length) :
    ∃ value, ofBytes header bytes = .double value ∧ value.IsSimple ∧
      (bytes.length = 4 → FloatFormat.single.Represents (header.order.unsigned bytes) value) ∧
      (bytes.length ≠ 4 →
        FloatFormat.double.Represents (header.order.unsigned bytes % 2 ^ 64) value) := by
  have notIntegral : header.integralNumbers = false := by simp [Header.integralNumbers, float]
  by_cases four : bytes.length = 4
  · have single : ofBytes header bytes =
        .double (Double.ofSinglePattern (header.order.unsigned bytes)) := by
      rw [ofBytes, if_neg (by simp [notIntegral]), if_neg (by omega), if_pos (by omega)]
    exact ⟨_, single, Double.isSimple_ofSinglePattern _,
      fun _ => FloatFormat.single_represents _, fun notFour => absurd four notFour⟩
  · have double : ofBytes header bytes =
        .double (Double.ofPattern (header.order.unsigned bytes % 2 ^ 64)) := by
      rw [← Double.ofWord_natCast]
      by_cases eight : bytes.length = 8
      · rw [ofBytes_eight notIntegral (by omega), Int.natCast_emod]
        exact congrArg _ (Double.ofWord_emod _).symm
      · rw [ofBytes_other notIntegral (by omega) (by omega), ByteOrder.littleEndian_lowEight]
    exact ⟨_, double, Double.isSimple_ofPattern _, fun isFour => absurd isFour four,
      fun _ => FloatFormat.double_represents _⟩

/-- Reading a number takes exactly the bytes of its field. Where numbers are integers, it gives the
one integer in the signed range of the field that is congruent to the unsigned one; otherwise a
positive zero, a positive infinity or a normal double, as the exponent field says, and from four
bytes exactly the value of the single-precision pattern. -/
theorem Number.read_range {header : Header} {buffer : Buffer} {start stop : Nat} {number : Number}
    (taken : (read header).Takes buffer start number stop) :
    ∃ width : Nat, header.widths.number = width ∧ stop = start + width ∧ stop ≤ buffer.size ∧
      let composed := header.order.unsigned ((buffer.toList.drop start).take width)
      (header.integral ≠ 0 → ∃ value : Int, number = .integer value ∧
        -2 ^ (8 * width - 1) ≤ value ∧ value < 2 ^ (8 * width - 1) ∧
        value ≡ composed [ZMOD 2 ^ (8 * width)]) ∧
      (header.integral = 0 → ∃ value : Double, number = .double value ∧
        (value = .zero ∨ value = .infinity ∨ value.IsNormal) ∧
        (value.isNaN = false ∧ value ≠ Double.zero.negated ∧ value ≠ Double.infinity.negated ∧
          ¬value.IsSubnormal) ∧
        (width = 4 → FloatFormat.single.Represents composed value) ∧
        (width ≠ 4 → FloatFormat.double.Represents (composed % 2 ^ 64) value)) := by
  obtain ⟨stored, _, storedTaken, taken⟩ := Reader.takes_bind.mp taken
  obtain ⟨rfl, rfl⟩ := Reader.takes_pure.mp taken
  obtain ⟨width, isWidth, isStored, stopped, inside⟩ := Reader.stored_of_takes_field storedTaken
  have length : stored.length = width := by
    have := Reader.length_of_takes_field storedTaken
    omega
  refine ⟨width, isWidth, stopped, inside, ?_⟩
  rw [← isStored, ← length]
  constructor
  · intro integral
    exact ⟨_, ofBytes_integral integral stored, header.order.signed_range stored⟩
  · intro float
    obtain ⟨value, isDouble, simple, single, double⟩ := ofBytes_float float (length ▸ isWidth)
    exact ⟨value, isDouble, simple,
      ⟨simple.not_isNaN, simple.ne_negated.1, simple.ne_negated.2, simple.not_isSubnormal⟩,
      single, double⟩

/-- Two bytes of an integer behind another byte, and minus five halves in single precision with the
most significant byte first. -/
theorem Number.read_range_minusTwo :
    (read ⟨0x51, 0, 1, ⟨4, 8, 4, 2⟩, 1⟩).Takes #[7, 0xfe, 0xff] 1 (.integer (-2)) 3 ∧
      (-2 ^ 15 ≤ (-2 : Int) ∧ (-2 : Int) < 2 ^ 15 ∧ (-2 : Int) ≡ 0xfffe [ZMOD 2 ^ 16]) ∧
      ∃ value : Double,
        (read ⟨0x51, 0, 0, ⟨4, 8, 4, 4⟩, 0⟩).Takes #[0xc0, 0x20, 0, 0] 0 (.double value) 4 ∧
          value.IsNormal ∧ value.exact = -5 / 2 := by
  have integer : (read ⟨0x51, 0, 1, ⟨4, 8, 4, 2⟩, 1⟩).Takes #[7, 0xfe, 0xff] 1 (.integer (-2)) 3 :=
    ⟨rfl, rfl⟩
  have single : (read ⟨0x51, 0, 0, ⟨4, 8, 4, 4⟩, 0⟩).Takes #[0xc0, 0x20, 0, 0] 0
      (.double (Double.ofSinglePattern 0xc0200000)) 4 := ⟨rfl, rfl⟩
  obtain ⟨_, isTwo, -, -, integral, -⟩ := read_range integer
  obtain rfl := Int.ofNat_inj.mp isTwo
  obtain ⟨_, ⟨⟩, range⟩ := integral (by decide)
  obtain ⟨_, isFour, -, -, -, float⟩ := read_range single
  obtain rfl := Int.ofNat_inj.mp isFour
  obtain ⟨_, ⟨⟩, -, -, represents, -⟩ := float rfl
  obtain ⟨normal, exact⟩ := (represents rfl).normal (by decide) (by decide)
  have sign : FloatFormat.single.sign.extract (0xc0200000 : Nat) = 1 := by decide
  have exponent : FloatFormat.single.exponent.extract (0xc0200000 : Nat) = 128 := by decide
  have fraction : FloatFormat.single.fraction.extract (0xc0200000 : Nat) = 0x200000 := by decide
  refine ⟨integer, range, _, single, normal, exact.trans ?_⟩
  show FloatFormat.single.normalValue 0xc0200000 = -5 / 2
  rw [FloatFormat.normalValue, sign, exponent, fraction]
  norm_num [FloatFormat.single]

end LuaBytecode
