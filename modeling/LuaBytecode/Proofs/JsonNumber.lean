import LuaBytecode.Proofs.ExactValue
import Mathlib.Algebra.Order.Ring.Abs
import Mathlib.Tactic.Ring

/-!
# Numbers in JSON documents

Which JSON value stands for a number constant: null for a double without a value, an integer for
integers and for whole doubles below the limit, and the double itself for all others. Doubles are
taken by the rational number of their 64-bit pattern, so nothing here depends on how whole doubles
are told from others.
-/

set_option autoImplicit false

namespace LuaBytecode

namespace Double

/-- The number that a 64-bit pattern stands for, unless its exponent field is all ones. The exponent
field says which power of two the fraction is a part of; that power itself is added to it except
under the least exponent. -/
def patternValue (pattern : Nat) : ℚ :=
  let sign : ℕ := pattern / 2 ^ 63 % 2
  let exponent : ℕ := pattern / 2 ^ 52 % 2 ^ 11
  let fraction : ℚ := (pattern % 2 ^ 52 : ℕ) / 2 ^ 52
  (-1) ^ sign *
    if exponent = 0 then fraction * 2 ^ (-1022 : ℤ)
    else (1 + fraction) * 2 ^ ((exponent : ℤ) - 1023)

private theorem exact_magnitude (value : Double) :
    value.magnitude.exact =
      if value.exponent.val = 0 then (value.fraction.val : ℚ) / 2 ^ 52 * 2 ^ (-1022 : ℤ)
      else (1 + (value.fraction.val : ℚ) / 2 ^ 52) * 2 ^ ((value.exponent.val : ℤ) - 1023) := by
  -- The last digit of a fraction is 52 places below the power of two it is a part of.
  have lastPlace (power : ℤ) : (2 : ℚ) ^ (power - 52) = 2 ^ power / 2 ^ 52 := by
    rw [zpow_sub₀ two_ne_zero]
    norm_cast
  rw [magnitude]
  split
  next =>
    have place := lastPlace (-1022)
    rw [Magnitude.exact, show (-1074 : ℤ) = -1022 - 52 by decide, place]
    ring
  next =>
    have place := lastPlace (value.exponent.val - 1023)
    rw [Magnitude.exact,
      show (value.exponent.val : ℤ) - 1075 = value.exponent.val - 1023 - 52 by omega, place]
    push_cast
    ring

theorem exact_ofBits (pattern : Nat) : (ofBits pattern).exact = patternValue pattern := by
  have sign : (ofBits pattern).negative = (pattern / 2 ^ 63 % 2 == 1) := rfl
  have size : (ofBits pattern).magnitude.exact =
      if pattern / 2 ^ 52 % 2 ^ 11 = 0 then
        ((pattern % 2 ^ 52 : ℕ) : ℚ) / 2 ^ 52 * 2 ^ (-1022 : ℤ)
      else (1 + ((pattern % 2 ^ 52 : ℕ) : ℚ) / 2 ^ 52) *
        2 ^ (((pattern / 2 ^ 52 % 2 ^ 11 : ℕ) : ℤ) - 1023) :=
    exact_magnitude (ofBits pattern)
  rw [exact, sign, size, patternValue]
  obtain even | odd : pattern / 2 ^ 63 % 2 = 0 ∨ pattern / 2 ^ 63 % 2 = 1 := by omega
  · rw [even, if_neg (by decide), pow_zero, one_mul]
  · rw [odd, if_pos (by decide), pow_one, neg_one_mul]

theorem not_isFinite_iff {value : Double} :
    ¬ value.isFinite ↔ value.isNaN ∨ value = infinity ∨ value = infinity.negated := by
  obtain ⟨negative, exponent, fraction⟩ := value
  by_cases isMax : exponent = 2047
  · subst isMax
    by_cases isZero : fraction.val = 0
    · obtain rfl : fraction = ⟨0, by decide⟩ := Fin.ext isZero
      cases negative <;> decide
    · simp [isFinite, isNaN, isZero]
  · simp [isFinite, isNaN, isMax, infinity, negated]

end Double

namespace Number

theorem toJson_eq_integer {number : Number} {whole : Int} :
    number.toJson = .integer whole ↔
      number = .integer whole ∨ ∃ value, number = .double value ∧ value.isFinite ∧
        value.exact = whole ∧ whole.natAbs < wholeLimit := by
  cases number with
  | integer value => simp [toJson]
  | double value =>
      simp only [reduceCtorEq, false_or, Number.double.injEq, exists_eq_left']
      by_cases finite : value.isFinite
      · rw [← Double.toInteger?_eq_some]
        cases isWhole : value.toInteger? with
        | none => simp [toJson, finite, isWhole]
        | some found =>
            by_cases small : found.natAbs < wholeLimit
            · simp only [toJson, finite, isWhole, small, if_true, Json.integer.injEq,
                Option.some.injEq, true_and]
              exact ⟨fun same => ⟨same, same ▸ small⟩, And.left⟩
            · simp only [toJson, finite, isWhole, small, if_true, if_false, reduceCtorEq,
                Option.some.injEq, true_and, false_iff]
              rintro ⟨rfl, below⟩
              exact small below
      · simp [toJson, finite]

theorem toJson_eq_double {number : Number} {value : Double} :
    number.toJson = .double value ↔
      number = .double value ∧ value.isFinite ∧
        ∀ whole : Int, value.exact = whole → wholeLimit ≤ whole.natAbs := by
  constructor
  · intro shown
    rcases number.toJson_cases with ⟨isNull, -⟩ | ⟨_, isInteger, -⟩ | ⟨_, isDouble, rfl, finite⟩
    · rw [isNull] at shown
      cases shown
    · rw [isInteger] at shown
      cases shown
    · obtain rfl := Json.double.inj (isDouble.symm.trans shown)
      refine ⟨rfl, finite, fun whole same => ?_⟩
      by_contra small
      have asInteger : (Number.double _).toJson = .integer whole :=
        toJson_eq_integer.mpr (.inr ⟨_, rfl, finite, same, Nat.lt_of_not_le small⟩)
      rw [shown] at asInteger
      cases asInteger
  · rintro ⟨rfl, finite, large⟩
    rcases (Number.double value).toJson_cases with ⟨-, none⟩ | ⟨whole, isInteger, -⟩ |
      ⟨_, isDouble, same, -⟩
    · simp [exactValue?, finite] at none
    · rcases toJson_eq_integer.mp isInteger with ⟨⟨⟩⟩ | ⟨_, ⟨⟩, -, same, small⟩
      exact absurd (large whole same) (Nat.not_le_of_lt small)
    · rw [isDouble, ← Number.double.inj same]

theorem exactValue?_eq_none {number : Number} :
    number.exactValue? = none ↔ ∃ value, number = .double value ∧ ¬ value.isFinite := by
  cases number with
  | integer value => simp [exactValue?]
  | double value => simp [exactValue?]

theorem natAbs_lt_wholeLimit {whole : Int} : whole.natAbs < wholeLimit ↔ |whole| < 10 ^ 21 := by
  have limit : (10 : ℤ) ^ 21 = (wholeLimit : ℤ) := by norm_num [wholeLimit]
  rw [limit, Int.abs_eq_natAbs, Nat.cast_lt]

/-- Of the doubles that are kept, the whole ones are large. -/
theorem forall_wholeLimit_le {exact : ℚ} :
    (∀ whole : Int, exact = whole → wholeLimit ≤ whole.natAbs) ↔
      (∀ whole : Int, exact ≠ whole) ∨ 10 ^ 21 ≤ |exact| := by
  have size (whole : Int) : wholeLimit ≤ whole.natAbs ↔ (10 : ℚ) ^ 21 ≤ |(whole : ℚ)| := by
    rw [← not_lt, natAbs_lt_wholeLimit, not_lt]
    exact_mod_cast Iff.rfl
  constructor
  · intro large
    by_cases isWhole : ∃ whole : Int, exact = whole
    · obtain ⟨whole, same⟩ := isWhole
      right
      rw [same]
      exact (size whole).mp (large whole same)
    · exact .inl (not_exists.mp isWhole)
  · rintro (notWhole | large) whole same
    · exact absurd same (notWhole whole)
    · exact (size whole).mpr (same ▸ large)

end Number

/-- A number constant becomes null in a JSON document if it is an infinity or a NaN, the integer
that it is equal to if it is an integer or a whole double below 10^21 in size, and stays as it is in
all other cases, so that its value is never changed. -/
theorem Constant.toJson_number_exact :
    (∀ value : Double, Double.ofBits value.toBits = value) ∧
    (∀ pattern : Nat, (Double.ofBits pattern).exact = Double.patternValue pattern) ∧
    ∀ number : Number,
      ((Constant.number number).toJson = .null ↔ ∃ value, number = .double value ∧
        (value.isNaN ∨ value = .infinity ∨ value = Double.infinity.negated)) ∧
      (∀ whole : Int, (Constant.number number).toJson = .integer whole ↔
        number = .integer whole ∨ ∃ value, number = .double value ∧ value.isFinite ∧
          value.exact = whole ∧ |whole| < 10 ^ 21) ∧
      (∀ value : Double, (Constant.number number).toJson = .double value ↔
        number = .double value ∧ value.isFinite ∧
          ((∀ whole : Int, value.exact ≠ whole) ∨ 10 ^ 21 ≤ |value.exact|)) ∧
      ((Constant.number number).toJson = .null ∨
        (∃ whole, (Constant.number number).toJson = .integer whole) ∨
        ∃ value, (Constant.number number).toJson = .double value) ∧
      (Constant.number number).toJson.exactValue? = number.exactValue? := by
  refine ⟨Double.ofBits_toBits, Double.exact_ofBits, fun number => ⟨?_, ?_, ?_, ?_, ?_⟩⟩
  · simp only [← Double.not_isFinite_iff, ← Number.exactValue?_eq_none]
    exact Number.toJson_eq_null
  · intro whole
    simp only [← Number.natAbs_lt_wholeLimit]
    exact Number.toJson_eq_integer
  · intro value
    rw [← Number.forall_wholeLimit_le]
    exact Number.toJson_eq_double
  · rcases number.toJson_cases with ⟨isNull, -⟩ | ⟨whole, isInteger, -⟩ | ⟨value, isDouble, -⟩
    · exact .inl isNull
    · exact .inr (.inl ⟨whole, isInteger⟩)
    · exact .inr (.inr ⟨value, isDouble⟩)
  · exact number.exactValue?_toJson

-- Negative zero is whole, and so is 10^21, which is not below the limit.
example : (Number.double Double.zero.negated).toJson = .integer 0 := rfl

example : (Number.double (.ofBits 0x444b1ae4d6e2ef50)).toJson =
    .double (.ofBits 0x444b1ae4d6e2ef50) := rfl

example : (Number.double (.ofBits 0x444b1ae4d6e2ef4f)).toJson = .integer 999999999999999868928 :=
  rfl

end LuaBytecode
