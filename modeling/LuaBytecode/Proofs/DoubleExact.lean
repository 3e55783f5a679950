import LuaBytecode.Number

/-!
# Exact doubles

Rounding changes nothing where the exact result is a double already. So the three roundings that
compute a double from the fields of its pattern are all exact, none of them leaves the range of the
finite doubles, and the result is the double with that pattern. A double that is simplified to
itself can therefore be stored by its pattern and read back, in four bytes as in eight or more.
-/

set_option autoImplicit false

namespace LuaBytecode

theorem BitField.extract_natCast (field : BitField) (word : Nat) :
    field.extract (word : Int) = (word >>> field.shift) % (1 <<< field.width) := by
  show (word &&& (1 <<< field.width - 1) <<< field.shift) >>> field.shift = _
  rw [Nat.shiftRight_and_distrib, Nat.shiftLeft_shiftRight, Nat.one_shiftLeft,
    Nat.and_two_pow_sub_one_eq_mod]

theorem roundHalfEven_bounds (numerator denominator : Nat) :
    numerator / denominator ≤ roundHalfEven numerator denominator ∧
      roundHalfEven numerator denominator ≤ numerator / denominator + 1 := by
  simp only [roundHalfEven]
  split
  next => omega
  next =>
    split
    next => omega
    next => split <;> omega

theorem roundHalfEven_mul (quotient : Nat) {denominator : Nat} (positive : 0 < denominator) :
    roundHalfEven (quotient * denominator) denominator = quotient := by
  have noRemainder : 2 * (quotient * denominator % denominator) < denominator := by
    rw [Nat.mul_mod_left]
    exact positive
  rw [roundHalfEven, if_pos noRemainder, Nat.mul_div_cancel quotient positive]

namespace Double

/-- Neither zero, nor too small for a full significand, nor an infinity or a NaN. -/
def IsNormal (value : Double) : Prop :=
  1 ≤ value.exponent.val ∧ value.exponent.val ≤ 2046

def significand (value : Double) : Nat :=
  0x10000000000000 + value.fraction.val

theorem magnitude_of_isNormal {value : Double} (normal : value.IsNormal) :
    value.magnitude = ⟨value.significand, (value.exponent.val : Int) - 1075⟩ := by
  rw [magnitude, if_neg (by have := normal.1; omega), significand]

private theorem log2_shiftLeft {number : Nat} (nonzero : number ≠ 0) (shift : Nat) :
    (number <<< shift).log2 = number.log2 + shift := by
  induction shift with
  | zero => rw [Nat.shiftLeft_zero, Nat.add_zero]
  | succ shift ih =>
      have shifted : number <<< shift ≠ 0 := by
        rw [Nat.shiftLeft_eq]
        exact Nat.mul_ne_zero nonzero (Nat.ne_of_gt (Nat.two_pow_pos shift))
      rw [Nat.shiftLeft_succ, Nat.log2_two_mul shifted, ih, Nat.add_assoc]

private theorem significand_lt (value : Double) : value.significand < 0x20000000000000 := by
  have := value.fraction.isLt
  rw [significand]
  omega

private theorem log2_significand (value : Double) : value.significand.log2 = 52 := by
  have lower : 0x10000000000000 ≤ value.significand := Nat.le_add_right _ _
  rw [Nat.log2_eq_iff (by omega)]
  exact ⟨lower, value.significand_lt⟩

private theorem ofSignificand?_significand {value : Double} (normal : value.IsNormal) :
    ofSignificand? value.negative value.significand ((value.exponent.val : Int) - 1075) =
      some value := by
  have notSmall : ¬ value.significand < 0x10000000000000 := by
    rw [significand]
    omega
  have field : ((value.exponent.val : Int) - 1075 + 1075).toNat = value.exponent.val := by omega
  have fraction : value.significand % 0x10000000000000 = value.fraction.val := by
    have := value.fraction.isLt
    rw [significand]
    omega
  have inRange : value.exponent.val < 2047 := Nat.lt_succ_of_le normal.2
  simp only [ofSignificand?, if_neg notSmall, field, fraction, dif_pos inRange]

/-- Rounding keeps a double, also where it is written with fewer digits. -/
theorem nearest?_widened {value : Double} (normal : value.IsNormal) {coefficient shift : Nat}
    (same : coefficient <<< shift = value.significand) :
    nearest? value.negative ⟨coefficient, (value.exponent.val : Int) - 1075 + shift⟩ =
      some value := by
  have bits : coefficient.log2 + shift = 52 := by
    have nonzero : coefficient ≠ 0 := by
      rintro rfl
      rw [Nat.zero_shiftLeft, significand] at same
      omega
    rw [← log2_shiftLeft nonzero, same, log2_significand]
  have unit : max (-1074) ((value.exponent.val : Int) - 1075 + shift +
      (coefficient.log2 : Int) - 52) = (value.exponent.val : Int) - 1075 := by
    have := normal.1
    omega
  have raise : ((value.exponent.val : Int) - 1075 + shift -
      ((value.exponent.val : Int) - 1075)).toNat = shift := by omega
  have above : (value.exponent.val : Int) - 1075 ≤ (value.exponent.val : Int) - 1075 + shift := by
    omega
  simp only [nearest?, unit, raise, if_pos above, same]
  rw [if_pos value.significand_lt]
  exact ofSignificand?_significand normal

/-- Digits below the last one of a double are lost in rounding, which they survive if they are
zeros. -/
theorem nearest?_shifted {value : Double} (normal : value.IsNormal) (shift : Nat) :
    nearest? value.negative ⟨value.significand <<< shift,
      (value.exponent.val : Int) - 1075 - shift⟩ = some value := by
  rcases Nat.eq_zero_or_pos shift with rfl | positive
  · exact nearest?_widened normal rfl
  · have unit : max (-1074) ((value.exponent.val : Int) - 1075 - shift +
        ((value.significand <<< shift).log2 : Int) - 52) = (value.exponent.val : Int) - 1075 := by
      have := normal.1
      rw [log2_shiftLeft (by rw [significand]; omega), log2_significand]
      omega
    have drop : ((value.exponent.val : Int) - 1075 -
        ((value.exponent.val : Int) - 1075 - shift)).toNat = shift := by omega
    have below :
        ¬ (value.exponent.val : Int) - 1075 ≤ (value.exponent.val : Int) - 1075 - shift := by
      omega
    have rounded : roundHalfEven (value.significand <<< shift) (1 <<< shift) =
        value.significand := by
      rw [Nat.shiftLeft_eq, Nat.one_shiftLeft]
      exact roundHalfEven_mul _ (Nat.two_pow_pos shift)
    simp only [nearest?, unit, drop, if_neg below, rounded]
    rw [if_pos value.significand_lt]
    exact ofSignificand?_significand normal

private theorem exists_normal (field : Nat) {coefficient : Nat}
    (lower : 0x10000000000000 ≤ coefficient) (upper : coefficient < 0x20000000000000)
    (positive : 1 ≤ field) (finite : field ≤ 2046) :
    ∃ value : Double, value.IsNormal ∧ value.negative = false ∧
      value.significand = coefficient ∧ value.exponent.val = field := by
  refine ⟨⟨false, ⟨field, by omega⟩, ⟨coefficient - 0x10000000000000, by omega⟩⟩,
    ⟨positive, finite⟩, rfl, ?_, rfl⟩
  show 0x10000000000000 + (coefficient - 0x10000000000000) = coefficient
  omega

theorem fraction_exact (fraction : Fin 0x10000000000000) :
    ∃ (mantissa : Double) (shift : Nat), nearest? false ⟨fraction.val, -52⟩ = some mantissa ∧
      mantissa.magnitude = ⟨fraction.val <<< shift, -52 - (shift : Int)⟩ := by
  by_cases isZero : fraction.val = 0
  · -- Zero has no leading digit to shift up, and any shift leaves it as it is.
    refine ⟨zero, 1022, ?_, ?_⟩
    · rw [isZero]
      decide
    · rw [isZero, Nat.zero_shiftLeft]
      decide
  · -- The shift that brings the leading digit to the place of that of a significand.
    obtain ⟨shift, full⟩ : ∃ shift, fraction.val.log2 + shift = 52 :=
      ⟨52 - fraction.val.log2, by
        have := (Nat.log2_lt (k := 52) isZero).mpr fraction.isLt
        omega⟩
    have bits : (fraction.val <<< shift).log2 = 52 := (log2_shiftLeft isZero shift).trans full
    have nonzero : fraction.val <<< shift ≠ 0 := by
      intro vanished
      rw [vanished, Nat.log2_zero] at bits
      omega
    obtain ⟨lower, upper⟩ := (Nat.log2_eq_iff nonzero).mp bits
    obtain ⟨mantissa, normal, positive, same, field⟩ :=
      exists_normal (1023 - shift) lower upper (by omega) (by omega)
    have unit : (mantissa.exponent.val : Int) - 1075 = -52 - (shift : Int) := by omega
    have exact := nearest?_widened normal same.symm
    rw [unit, positive, Int.sub_add_cancel] at exact
    exact ⟨mantissa, shift, exact, by rw [magnitude_of_isNormal normal, same, unit]⟩

theorem isNormal_significand (fraction : Fin 0x10000000000000) :
    IsNormal ⟨false, 1023, fraction⟩ :=
  ⟨Nat.le_of_ble_eq_true rfl, Nat.le_of_ble_eq_true rfl⟩

theorem one_add_exact (fraction : Fin 0x10000000000000) {mantissa : Double} {shift : Nat}
    (size : mantissa.magnitude = ⟨fraction.val <<< shift, -52 - (shift : Int)⟩) :
    nearest? false (Magnitude.add ⟨1, 0⟩ mantissa.magnitude) = some ⟨false, 1023, fraction⟩ := by
  have sum : Magnitude.add ⟨1, 0⟩ ⟨fraction.val <<< shift, -52 - (shift : Int)⟩ =
      ⟨(0x10000000000000 + fraction.val) <<< shift, -52 - (shift : Int)⟩ := by
    have lower : min 0 (-52 - (shift : Int)) = -52 - (shift : Int) := by omega
    have raise : (0 - (-52 - (shift : Int))).toNat = 52 + shift := by omega
    simp only [Magnitude.add, Magnitude.lowered, lower, raise, Int.sub_self, Int.toNat_zero,
      Nat.shiftLeft_zero]
    rw [Nat.shiftLeft_add, Nat.shiftLeft_eq _ shift, Nat.shiftLeft_eq _ shift,
      Nat.shiftLeft_eq _ shift, Nat.add_mul]
    rfl
  rw [size, sum]
  exact nearest?_shifted (isNormal_significand fraction) shift

theorem scale_exact {value : Double} (normal : value.IsNormal) :
    nearest? false ((⟨false, 1023, value.fraction⟩ : Double).magnitude.scale
      ((value.exponent.val : Int) - 1023)) = some { value with negative := false } := by
  have field : (((1023 : Fin 2048).val : Int) - 1075) + ((value.exponent.val : Int) - 1023) =
      (value.exponent.val : Int) - 1075 - (0 : Nat) := by
    simp
    omega
  have kept : IsNormal { value with negative := false } := normal
  rw [magnitude_of_isNormal (isNormal_significand value.fraction), Magnitude.scale, field]
  exact nearest?_shifted kept 0

/-- The computation of `ofWord` where a step that leaves the range of the doubles fails. -/
def ofWord? (word : Int) : Option Double :=
  let exponent := exponentBits.extract word
  if exponent = 0 then some zero
  else if exponent = 2047 then some infinity
  else do
    let mantissa ← nearest? false ⟨fractionBits.extract word, -52⟩
    let significand ← nearest? false (Magnitude.add ⟨1, 0⟩ mantissa.magnitude)
    let value ← nearest? false (significand.magnitude.scale ((exponent : Int) - 1023))
    return if signBit.extract word = 0 then value else value.negated

theorem ofWord_eq_of_some {word : Int} {value : Double} (computed : ofWord? word = some value) :
    ofWord word = value := by
  simp only [ofWord?] at computed
  rw [ofWord]
  split at computed
  next isZero => simpa [isZero] using computed
  next notZero =>
    split at computed
    next isMax => simpa [isMax] using computed
    next notMax =>
      simp only [Option.bind_eq_bind, Option.bind_eq_some_iff, Option.pure_def,
        Option.some.injEq] at computed
      obtain ⟨mantissa, first, significand, second, scaled, third, same⟩ := computed
      simp only [if_neg notZero, if_neg notMax, nearest, first, second, third, Option.getD_some]
      exact same

theorem exponent_ofBits (pattern : Nat) :
    (ofBits pattern).exponent.val = exponentBits.extract pattern := by
  rw [BitField.extract_natCast, Nat.shiftRight_eq_div_pow]
  rfl

theorem fraction_ofBits (pattern : Nat) :
    (ofBits pattern).fraction.val = fractionBits.extract pattern := by
  rw [BitField.extract_natCast]
  rfl

theorem extract_signBit (pattern : Nat) :
    signBit.extract pattern = pattern / 0x8000000000000000 % 2 := by
  rw [BitField.extract_natCast, Nat.shiftRight_eq_div_pow]
  rfl

theorem ofWord?_natCast (word : Nat) : ofWord? word = some (ofPattern word) := by
  simp only [ofWord?, ofPattern, ← exponent_ofBits, ← fraction_ofBits, extract_signBit]
  split
  next => rfl
  next notZero =>
    split
    next => rfl
    next notMax =>
      have normal : (ofBits word).IsNormal := by
        have := (ofBits word).exponent.isLt
        constructor <;> omega
      obtain ⟨mantissa, shift, rounded, size⟩ := fraction_exact (ofBits word).fraction
      simp only [rounded, one_add_exact _ size, scale_exact normal, Option.bind_eq_bind,
        Option.bind_some, Option.pure_def, Option.some.injEq]
      have signs : word / 0x8000000000000000 % 2 = 0 ∨ word / 0x8000000000000000 % 2 = 1 := by
        omega
      rcases signs with positive | negative
      · simp [ofBits, positive]
      · simp [ofBits, negated, negative]

theorem ofWord_natCast (word : Nat) : ofWord word = ofPattern word :=
  ofWord_eq_of_some (ofWord?_natCast word)

/-! ## Patterns of doubles -/

/-- The doubles that reading gives: a stored pattern is simplified to one of these. -/
def IsSimple (value : Double) : Prop :=
  value = zero ∨ value = infinity ∨ value.IsNormal

theorem toBits_lt (value : Double) : value.toBits < 0x10000000000000000 := by
  have exponent := value.exponent.isLt
  have fraction := value.fraction.isLt
  rw [toBits]
  split <;> omega

theorem ofBits_toBits (value : Double) : ofBits value.toBits = value := by
  obtain ⟨negative, ⟨exponent, exponentLt⟩, ⟨fraction, fractionLt⟩⟩ := value
  have sign : toBits ⟨negative, ⟨exponent, exponentLt⟩, ⟨fraction, fractionLt⟩⟩ /
      0x8000000000000000 % 2 = if negative then 1 else 0 := by
    cases negative <;> simp [toBits] <;> omega
  have field : toBits ⟨negative, ⟨exponent, exponentLt⟩, ⟨fraction, fractionLt⟩⟩ /
      0x10000000000000 % 2048 = exponent := by
    cases negative <;> simp [toBits] <;> omega
  have rest : toBits ⟨negative, ⟨exponent, exponentLt⟩, ⟨fraction, fractionLt⟩⟩ %
      0x10000000000000 = fraction := by
    cases negative <;> simp [toBits] <;> omega
  rw [ofBits]
  cases negative <;> simp [sign, field, rest]

theorem ofPattern_toBits {value : Double} (simple : value.IsSimple) :
    ofPattern value.toBits = value := by
  simp only [ofPattern, ofBits_toBits]
  rcases simple with rfl | rfl | ⟨positive, finite⟩
  · rfl
  · rfl
  · rw [if_neg (by omega), if_neg (by omega)]

/-- Normal as a single-precision number, which has eight bits of exponent and 23 of fraction. -/
def IsNormalSingle (value : Double) : Prop :=
  897 ≤ value.exponent.val ∧ value.exponent.val ≤ 1150 ∧ value.fraction.val % 0x20000000 = 0

def IsSimpleSingle (value : Double) : Prop :=
  value = zero ∨ value = infinity ∨ value.IsNormalSingle

/-- The exponent field that a number has in single precision, where the bias is less by 896. -/
def singleExponent (value : Double) : Nat :=
  if value.exponent.val = 0 then 0
  else if value.exponent.val = 2047 then 255
  else (value.exponent.val - 896) % 256

/-- The 32-bit pattern of a zero, an infinity or a normal number of single precision. -/
def toSingleBits (value : Double) : Nat :=
  (if value.negative then 0x80000000 else 0) + value.singleExponent * 0x800000
    + value.fraction.val / 0x20000000

theorem toSingleBits_lt (value : Double) : value.toSingleBits < 0x100000000 := by
  have fraction := value.fraction.isLt
  have exponent : value.singleExponent < 256 := by
    rw [singleExponent]
    split
    next => omega
    next => split <;> omega
  rw [toSingleBits]
  split <;> omega

theorem ofSinglePattern_toSingleBits {value : Double} (simple : value.IsSimpleSingle) :
    ofSinglePattern value.toSingleBits = value := by
  rcases simple with rfl | rfl | ⟨lower, upper, whole⟩
  · decide
  · decide
  · obtain ⟨negative, ⟨exponent, exponentLt⟩, ⟨fraction, fractionLt⟩⟩ := value
    simp only at lower upper whole
    have single : singleExponent ⟨negative, ⟨exponent, exponentLt⟩, ⟨fraction, fractionLt⟩⟩ =
        exponent - 896 := by
      simp only [singleExponent]
      rw [if_neg (by omega), if_neg (by omega)]
      omega
    simp only [ofSinglePattern, toSingleBits, single]
    have field : ((if negative then 0x80000000 else 0) + (exponent - 896) * 0x800000 +
        fraction / 0x20000000) / 0x800000 % 256 = exponent - 896 := by
      split <;> omega
    have rest : ((if negative then 0x80000000 else 0) + (exponent - 896) * 0x800000 +
        fraction / 0x20000000) % 0x800000 = fraction / 0x20000000 := by
      split <;> omega
    have sign : ((if negative then 0x80000000 else 0) + (exponent - 896) * 0x800000 +
        fraction / 0x20000000) / 0x80000000 % 2 = if negative then 1 else 0 := by
      split <;> omega
    simp only [field, rest, sign]
    rw [if_neg (by omega), if_neg (by omega)]
    have exponentSame : (exponent - 896 + 896) % 2048 = exponent := by omega
    have fractionSame : fraction / 0x20000000 * 0x20000000 % 0x10000000000000 = fraction := by
      omega
    exact Double.mk.injEq .. ▸ ⟨by cases negative <;> rfl, Fin.ext exponentSame,
      Fin.ext fractionSame⟩

end Double

end LuaBytecode
