import LuaBytecode.Constant
import LuaBytecode.Proofs.DoubleExact
import Mathlib.Algebra.Order.Field.Power
import Mathlib.Algebra.Order.Field.Rat
import Mathlib.Tactic.FieldSimp
import Mathlib.Tactic.NormNum
import Mathlib.Tactic.Positivity

/-!
# Exact values

Every finite double is a rational number. A number constant and the number that stands for it in a
JSON document have the same one; only a constant without a value becomes null.
-/

set_option autoImplicit false

namespace LuaBytecode

namespace Magnitude

def exact (size : Magnitude) : ℚ :=
  size.coefficient * 2 ^ size.exponent

/-- The natural number that a magnitude is equal to, if it is one. -/
def whole? (size : Magnitude) : Option Nat :=
  if 0 ≤ size.exponent then some (size.coefficient <<< size.exponent.toNat)
  else
    let divisor := 1 <<< (-size.exponent).toNat
    if size.coefficient % divisor = 0 then some (size.coefficient / divisor) else none

theorem exact_nonneg (size : Magnitude) : 0 ≤ size.exact := by
  rw [exact]
  positivity

theorem whole?_eq_some {size : Magnitude} {whole : Nat} :
    size.whole? = some whole ↔ size.exact = whole := by
  obtain ⟨coefficient, exponent⟩ := size
  rcases Int.eq_nat_or_neg exponent with ⟨power, rfl | rfl⟩
  · have value : (⟨coefficient, power⟩ : Magnitude).exact = (coefficient * 2 ^ power : ℕ) := by
      rw [exact, zpow_natCast]
      push_cast
      rfl
    rw [value, Nat.cast_inj, whole?, if_pos (Int.natCast_nonneg power), Option.some.injEq,
      Int.toNat_natCast, Nat.shiftLeft_eq]
  · rcases Nat.eq_zero_or_pos power with rfl | positive
    · simp [whole?, exact]
    · have negative : ¬ (0 : ℤ) ≤ -(power : ℤ) := by omega
      have value : (⟨coefficient, -power⟩ : Magnitude).exact = (coefficient : ℚ) / 2 ^ power := by
        rw [exact, zpow_neg, zpow_natCast, div_eq_mul_inv]
      simp only [whole?, if_neg negative, neg_neg, Int.toNat_natCast, Nat.one_shiftLeft]
      rw [value, div_eq_iff (by positivity)]
      have cast : (coefficient : ℚ) = whole * 2 ^ power ↔ coefficient = whole * 2 ^ power := by
        exact_mod_cast Iff.rfl
      rw [cast]
      constructor
      · intro divided
        split at divided
        next even =>
          rw [← Option.some.inj divided]
          exact (Nat.div_mul_cancel (Nat.dvd_of_mod_eq_zero even)).symm
        next => cases divided
      · rintro rfl
        rw [if_pos (Nat.mul_mod_left _ _), Nat.mul_div_cancel _ (Nat.two_pow_pos power)]

end Magnitude

namespace Double

/-- The number that a finite double stands for. -/
def exact (value : Double) : ℚ :=
  if value.negative then -value.magnitude.exact else value.magnitude.exact

theorem toInteger?_eq_some {value : Double} {whole : Int} :
    value.toInteger? = some whole ↔ value.exact = whole := by
  have split : value.toInteger? = value.magnitude.whole?.map fun absolute : Nat =>
      if value.negative then -(absolute : Int) else (absolute : Int) := by
    show Option.map _ (value.magnitude.whole?.bind fun absolute => some (absolute : Int)) = _
    cases value.magnitude.whole? <;> rfl
  rw [split, Option.map_eq_some_iff, exact]
  have size := value.magnitude.exact_nonneg
  cases value.negative with
  | false =>
      simp only [Bool.false_eq_true, if_false, Magnitude.whole?_eq_some]
      constructor
      · rintro ⟨absolute, same, rfl⟩
        exact_mod_cast same
      · intro same
        have nonneg : 0 ≤ whole := by exact_mod_cast same ▸ size
        obtain ⟨absolute, rfl⟩ := Int.eq_ofNat_of_zero_le nonneg
        exact ⟨absolute, by exact_mod_cast same, rfl⟩
  | true =>
      simp only [if_true, Magnitude.whole?_eq_some]
      constructor
      · rintro ⟨absolute, same, rfl⟩
        rw [same]
        push_cast
        rfl
      · intro same
        have flipped : value.magnitude.exact = ((-whole : ℤ) : ℚ) := by
          rw [Int.cast_neg, ← same, neg_neg]
        have nonneg : 0 ≤ -whole := by exact_mod_cast flipped ▸ size
        obtain ⟨absolute, opposite⟩ := Int.eq_ofNat_of_zero_le nonneg
        refine ⟨absolute, ?_, by omega⟩
        rw [flipped, opposite]
        rfl

end Double

namespace Number

/-- The rational number that a number constant stands for; an infinity or a NaN stands for none. -/
def exactValue? : Number → Option ℚ
  | .integer value => some value
  | .double value => if value.isFinite then some value.exact else none

end Number

/-- The rational number that a JSON number stands for; other JSON values stand for none. -/
def Json.exactValue? : Json → Option ℚ
  | .integer value => some value
  | .double value => (Number.double value).exactValue?
  | .null | .boolean _ | .text _ | .array _ | .object _ => none

namespace Number

/-- A number is written as null, or as a number equal to it. -/
theorem toJson_cases (number : Number) :
    (number.toJson = .null ∧ number.exactValue? = none) ∨
      (∃ whole, number.toJson = .integer whole ∧ number.exactValue? = some (whole : ℚ)) ∨
      ∃ value, number.toJson = .double value ∧ number = .double value ∧ value.isFinite := by
  cases number with
  | integer value => exact .inr (.inl ⟨value, rfl, rfl⟩)
  | double value =>
      by_cases finite : value.isFinite
      · cases isWhole : value.toInteger? with
        | none => exact .inr (.inr ⟨value, by simp [toJson, finite, isWhole], rfl, finite⟩)
        | some whole =>
            by_cases small : whole.natAbs < wholeLimit
            · refine .inr (.inl ⟨whole, by simp [toJson, finite, isWhole, small], ?_⟩)
              rw [exactValue?, if_pos finite, Double.toInteger?_eq_some.mp isWhole]
            · exact .inr (.inr ⟨value, by simp [toJson, finite, isWhole, small], rfl, finite⟩)
      · exact .inl ⟨by simp [toJson, finite], by simp [exactValue?, finite]⟩

theorem exactValue?_toJson (number : Number) : number.toJson.exactValue? = number.exactValue? := by
  rcases number.toJson_cases with ⟨isNull, none⟩ | ⟨whole, isInteger, some⟩ | ⟨_, isDouble, rfl, -⟩
  · rw [isNull, none]
    rfl
  · rw [isInteger, some]
    rfl
  · rw [isDouble]
    rfl

theorem toJson_eq_null {number : Number} : number.toJson = .null ↔ number.exactValue? = none := by
  rcases number.toJson_cases with ⟨isNull, none⟩ | ⟨whole, isInteger, some⟩ |
    ⟨value, isDouble, rfl, finite⟩
  · simp [isNull, none]
  · simp [isInteger, some]
  · simp [isDouble, exactValue?, finite]

end Number

/-! ## Stored numbers -/

namespace Double

theorem isSimple_ofPattern (pattern : Nat) : (ofPattern pattern).IsSimple := by
  simp only [ofPattern]
  split
  next => exact .inl rfl
  next notZero =>
    split
    next => exact .inr (.inl rfl)
    next notMax =>
      have := (ofBits pattern).exponent.isLt
      exact .inr (.inr ⟨by omega, by omega⟩)

theorem isSimple_ofSinglePattern (pattern : Nat) : (ofSinglePattern pattern).IsSimple := by
  simp only [ofSinglePattern]
  split
  next => exact .inl rfl
  next notZero =>
    split
    next => exact .inr (.inl rfl)
    next notMax =>
      refine .inr (.inr ⟨?_, ?_⟩) <;> show _ ≤ _ <;> simp only <;> omega

theorem IsSimple.eq_infinity {value : Double} (simple : value.IsSimple)
    (infinite : (Number.double value).exactValue? = none) : value = infinity := by
  rcases simple with rfl | rfl | ⟨-, finite⟩
  · exact absurd infinite (by decide)
  · rfl
  · have notMax : value.exponent ≠ 2047 := by
      rintro equal
      rw [equal] at finite
      exact absurd finite (by decide)
    simp [Number.exactValue?, isFinite, notMax] at infinite

end Double

theorem Number.isSimple_of_ofBytes {header : Header} {bytes : Bytes} {value : Double}
    (stored : ofBytes header bytes = .double value) : value.IsSimple := by
  simp only [ofBytes, Double.ofWord_natCast] at stored
  split at stored
  next => cases stored
  next =>
    split at stored
    next =>
      cases stored
      exact Double.isSimple_ofPattern _
    next =>
      split at stored <;> cases stored
      next => exact Double.isSimple_ofSinglePattern _
      next => exact Double.isSimple_ofPattern _

end LuaBytecode
