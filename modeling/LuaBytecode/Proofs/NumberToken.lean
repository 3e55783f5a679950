import LuaBytecode.Proofs.DoubleExact
import LuaBytecode.Proofs.JsonGrammar
import Mathlib.Data.List.DropRight

/-!
# Numbers as JSON tokens

The text of an integer is a JSON number and is read back as that integer. The text of a finite
double is a JSON number with a fraction or an exponent. Its digits never start with a zero, because
the first digit that is chosen is at the place of the leading digit of the exact value.
-/

set_option autoImplicit false

namespace LuaBytecode

namespace JsonReading

theorem isDigits_eq_true {chars : List Char} :
    isDigits chars = true ↔ chars ≠ [] ∧ ∀ char ∈ chars, char.isDigit = true := by
  cases chars <;> simp [isDigits]

theorem cut_of_none {separates : Char → Bool} {chars : List Char}
    (absent : ∀ char ∈ chars, separates char = false) : cut separates chars = (chars, none) := by
  have skipped : chars.dropWhile (fun char => !separates char) = [] := by
    rw [List.dropWhile_eq_nil_iff]
    simpa using absent
  simp only [cut, skipped]

theorem cut_of_some {separates : Char → Bool} {before : List Char} {char : Char}
    (after : List Char) (absent : ∀ char ∈ before, separates char = false)
    (separator : separates char = true) :
    cut separates (before ++ char :: after) = (before, some after) := by
  have passed : ∀ char ∈ before, (!separates char) = true := by simpa using absent
  have skipped : (before ++ char :: after).dropWhile (fun char => !separates char) =
      char :: after := by
    rw [List.dropWhile_append_of_pos passed, List.dropWhile_cons_of_neg (by simp [separator])]
  have taken : (before ++ char :: after).takeWhile (fun char => !separates char) = before := by
    rw [List.takeWhile_append_of_pos passed, List.takeWhile_cons_of_neg (by simp [separator]),
      List.append_nil]
  simp only [cut, skipped, taken]

/-- The parts of a number after its sign, put together. -/
def numeral (whole : List Char) (fraction exponent : Option (List Char)) : List Char :=
  whole ++ (fraction.elim [] ('.' :: ·) ++ exponent.elim [] ('e' :: ·))

def signed (negative : Bool) (chars : List Char) : List Char :=
  if negative then '-' :: chars else chars

theorem isDigit_ne {char : Char} (digit : char.isDigit = true) :
    char ≠ '.' ∧ char ≠ 'e' ∧ char ≠ 'E' ∧ char ≠ '-' := by
  refine ⟨?_, ?_, ?_, ?_⟩ <;> (rintro rfl; exact absurd digit (by decide))

theorem isWhole_eq_true {chars : List Char} :
    isWhole chars = true ↔
      isDigits chars = true ∧ (chars.head? ≠ some '0' ∨ chars.length = 1) := by
  simp [isWhole]

theorem isDigits_of_subset {part chars : List Char} (nonempty : part ≠ [])
    (within : part ⊆ chars) (ok : isDigits chars = true) : isDigits part = true :=
  isDigits_eq_true.mpr ⟨nonempty, fun char member =>
    (isDigits_eq_true.mp ok).2 char (within member)⟩

theorem isDigit_of_isWhole {whole : List Char} (wholeOk : isWhole whole = true) :
    whole ≠ [] ∧ ∀ char ∈ whole, char.isDigit = true := by
  rw [isWhole, Bool.and_eq_true] at wholeOk
  exact isDigits_eq_true.mp wholeOk.1

private theorem cut_exponent {whole : List Char} {fraction : Option (List Char)}
    (exponent : Option (List Char)) (wholeOk : isWhole whole = true)
    (fractionOk : fraction.all isDigits = true) :
    cut (fun char => char == 'e' || char == 'E') (numeral whole fraction exponent) =
      (whole ++ fraction.elim [] ('.' :: ·), exponent) := by
  have plain : ∀ char ∈ whole ++ fraction.elim [] ('.' :: ·),
      (char == 'e' || char == 'E') = false := by
    intro char member
    have digitOrPoint : char.isDigit = true ∨ char = '.' := by
      rcases List.mem_append.mp member with inWhole | inFraction
      · exact .inl ((isDigit_of_isWhole wholeOk).2 char inWhole)
      · cases fraction with
        | none => cases inFraction
        | some digits =>
            rcases List.mem_cons.mp inFraction with isPoint | inDigits
            · exact .inr isPoint
            · exact .inl ((isDigits_eq_true.mp fractionOk).2 char inDigits)
    rcases digitOrPoint with digit | rfl
    · simp [isDigit_ne digit]
    · decide
  rw [numeral, ← List.append_assoc]
  cases exponent with
  | none =>
      rw [Option.elim_none, List.append_nil]
      exact cut_of_none plain
  | some digits => exact cut_of_some digits plain (by decide)

private theorem cut_fraction {whole : List Char} (fraction : Option (List Char))
    (wholeOk : isWhole whole = true) :
    cut (· == '.') (whole ++ fraction.elim [] ('.' :: ·)) = (whole, fraction) := by
  have plain : ∀ char ∈ whole, (char == '.') = false := by
    intro char member
    simp [isDigit_ne ((isDigit_of_isWhole wholeOk).2 char member)]
  cases fraction with
  | none =>
      rw [Option.elim_none, List.append_nil]
      exact cut_of_none plain
  | some digits => exact cut_of_some digits plain (by decide)

private theorem head_numeral {whole : List Char} (fraction exponent : Option (List Char))
    (wholeOk : isWhole whole = true) : (numeral whole fraction exponent).head? ≠ some '-' := by
  obtain ⟨nonempty, digits⟩ := isDigit_of_isWhole wholeOk
  cases whole with
  | nil => exact absurd rfl nonempty
  | cons first rest =>
      simp only [numeral, List.cons_append, List.head?_cons, ne_eq, Option.some.injEq]
      exact (isDigit_ne (digits first List.mem_cons_self)).2.2.2

theorem number_numeral (negative : Bool) {whole : List Char}
    {fraction exponent : Option (List Char)} (wholeOk : isWhole whole = true)
    (fractionOk : fraction.all isDigits = true) (exponentOk : exponent.all isExponent = true) :
    number (signed negative (numeral whole fraction exponent)) =
      if fraction.isSome || exponent.isSome then
        some (.decimal (signed negative (numeral whole fraction exponent)))
      else
        some (.integer (if negative then -(Nat.ofDigitChars 10 whole 0 : Int)
          else Nat.ofDigitChars 10 whole 0)) := by
  have noSign := head_numeral fraction exponent wholeOk
  have cutExponent := cut_exponent exponent wholeOk fractionOk
  cases negative with
  | false =>
      simp only [number, signed, noSign, cutExponent, cut_fraction fraction wholeOk, wholeOk,
        fractionOk, exponentOk, Bool.and_self, Bool.false_eq_true, if_false, if_true]
  | true =>
      simp only [number, signed, List.head?_cons, List.drop_one, List.tail_cons, cutExponent,
        cut_fraction fraction wholeOk, wholeOk, fractionOk, exponentOk, Bool.and_self, if_true]

theorem isTokenChar_of_isDigit {char : Char} (digit : char.isDigit = true) :
    isTokenChar char = true := by
  simp [isTokenChar, Char.isAlphanum, digit]

private theorem isTokenChar_of_isDigits {digits : List Char} (ok : isDigits digits = true) :
    ∀ char ∈ digits, isTokenChar char = true :=
  fun char member => isTokenChar_of_isDigit ((isDigits_eq_true.mp ok).2 char member)

private theorem isTokenChar_of_isExponent {exponent : List Char}
    (ok : isExponent exponent = true) : ∀ char ∈ exponent, isTokenChar char = true := by
  unfold isExponent at ok
  split at ok
  · exact List.forall_mem_cons.mpr ⟨by decide, isTokenChar_of_isDigits ok⟩
  · exact List.forall_mem_cons.mpr ⟨by decide, isTokenChar_of_isDigits ok⟩
  · exact isTokenChar_of_isDigits ok

theorem isTokenChar_numeral (negative : Bool) {whole : List Char}
    {fraction exponent : Option (List Char)} (wholeOk : isWhole whole = true)
    (fractionOk : fraction.all isDigits = true) (exponentOk : exponent.all isExponent = true) :
    ∀ char ∈ signed negative (numeral whole fraction exponent), isTokenChar char = true := by
  have unsigned : ∀ char ∈ numeral whole fraction exponent, isTokenChar char = true := by
    rw [numeral, List.forall_mem_append, List.forall_mem_append]
    refine ⟨?_, ?_, ?_⟩
    · exact fun char member => isTokenChar_of_isDigit ((isDigit_of_isWhole wholeOk).2 char member)
    · cases fraction with
      | none => simp
      | some digits =>
          exact List.forall_mem_cons.mpr ⟨by decide, isTokenChar_of_isDigits fractionOk⟩
    · cases exponent with
      | none => simp
      | some digits =>
          exact List.forall_mem_cons.mpr ⟨by decide, isTokenChar_of_isExponent exponentOk⟩
  cases negative with
  | false => exact unsigned
  | true => exact List.forall_mem_cons.mpr ⟨by decide, unsigned⟩

end JsonReading

/-! ## Integers -/

theorem head_toDigits_ne_zero {number : Nat} (positive : 0 < number) :
    (Nat.toDigits 10 number).head? ≠ some '0' := by
  induction number using Nat.strongRecOn with
  | ind number ih =>
      by_cases small : number < 10
      · rw [Nat.toDigits_of_lt_base small, List.head?_cons, ne_eq, Option.some.injEq,
          Nat.digitChar_eq_zero]
        omega
      · rw [Nat.toDigits_of_base_le (by decide) (by omega), List.head?_append_of_ne_nil _
          Nat.toDigits_ne_nil]
        exact ih (number / 10) (by omega) (by omega)

theorem isWhole_toDigits (number : Nat) : JsonReading.isWhole (Nat.toDigits 10 number) = true := by
  have digits : JsonReading.isDigits (Nat.toDigits 10 number) = true :=
    JsonReading.isDigits_eq_true.mpr ⟨Nat.toDigits_ne_nil, fun _ member =>
      Nat.isDigit_of_mem_toDigits (by decide) (by decide) member⟩
  rw [JsonReading.isWhole, digits, Bool.true_and]
  rcases Nat.eq_zero_or_pos number with rfl | positive
  · decide
  · simp [head_toDigits_ne_zero positive]

theorem Json.integerChars_eq (value : Int) :
    integerChars value =
      JsonReading.signed (decide (value < 0))
        (JsonReading.numeral (Nat.toDigits 10 value.natAbs) none none) := by
  simp [integerChars, JsonReading.signed, JsonReading.numeral]

theorem Json.number_integerChars (value : Int) :
    JsonReading.number (integerChars value) = some (.integer value) := by
  rw [integerChars_eq, JsonReading.number_numeral _ (isWhole_toDigits _) rfl rfl]
  simp only [Nat.ofDigitChars_ten_toDigits, Option.isSome_none, Bool.or_self, Bool.false_eq_true,
    if_false, decide_eq_true_eq]
  congr 2
  split <;> omega

theorem Json.isTokenChar_integerChars (value : Int) :
    ∀ char ∈ integerChars value, JsonReading.isTokenChar char = true := by
  rw [integerChars_eq]
  exact JsonReading.isTokenChar_numeral _ (isWhole_toDigits _) rfl rfl

/-! ## Doubles -/

namespace Decimal

/-- Digits without a zero in front, or the single digit zero. -/
structure IsNormal (decimal : Decimal) : Prop where
  digits : JsonReading.isDigits decimal.digits = true
  leading : decimal.digits.head? ≠ some '0' ∨ decimal.digits = ['0'] ∧ decimal.lead = 0

private theorem isDigits_zeros_append {digits : List Char} (count : Nat)
    (ok : JsonReading.isDigits digits = true) :
    JsonReading.isDigits (List.replicate count '0' ++ digits) = true := by
  obtain ⟨nonempty, digits⟩ := JsonReading.isDigits_eq_true.mp ok
  refine JsonReading.isDigits_eq_true.mpr ⟨by simp [nonempty], ?_⟩
  refine List.forall_mem_append.mpr ⟨?_, digits⟩
  intro char member
  rw [(List.mem_replicate.mp member).2]
  decide

theorem isExponent_exponentChars (exponent : Int) :
    JsonReading.isExponent (exponentChars exponent) = true := by
  have digits := isDigits_zeros_append (2 - (Nat.toDigits 10 exponent.natAbs).length)
    (JsonReading.isDigits_eq_true.mpr (JsonReading.isDigit_of_isWhole
      (isWhole_toDigits exponent.natAbs)))
  rw [exponentChars]
  split <;> exact digits

/-- The text of a decimal has the form of a JSON number that is no integer. -/
theorem IsNormal.numeral {decimal : Decimal} (normal : decimal.IsNormal) :
    ∃ whole fraction exponent,
      render Json.numberStyle decimal = JsonReading.numeral whole fraction exponent ∧
      JsonReading.isWhole whole = true ∧ fraction.all JsonReading.isDigits = true ∧
      exponent.all JsonReading.isExponent = true ∧
      (fraction.isSome || exponent.isSome) = true := by
  obtain ⟨digits, lead⟩ := decimal
  obtain ⟨digitsOk, leading⟩ := normal
  obtain ⟨nonempty, allDigits⟩ := JsonReading.isDigits_eq_true.mp digitsOk
  simp only at digitsOk leading nonempty allDigits
  simp only [render, Json.numberStyle]
  split
  next positional =>
    split
    next =>
      refine ⟨['0'], some (List.replicate (-lead - 1).toNat '0' ++ digits), none, ?_, by decide,
        isDigits_zeros_append _ digitsOk, rfl, rfl⟩
      simp [JsonReading.numeral]
    next notNegative =>
      split
      next short =>
        refine ⟨digits ++ List.replicate ((lead + 1).toNat - digits.length) '0', some ['0'], none,
          by simp [JsonReading.numeral], ?_, by decide, rfl, rfl⟩
        refine JsonReading.isWhole_eq_true.mpr ⟨?_, ?_⟩
        · exact JsonReading.isDigits_of_subset (by simp [nonempty]) (by simp)
            (isDigits_zeros_append ((lead + 1).toNat - digits.length) digitsOk)
        · rcases leading with notZero | ⟨rfl, rfl⟩
          · rw [List.head?_append_of_ne_nil _ nonempty]
            exact .inl notZero
          · exact .inr rfl
      next long =>
        refine ⟨digits.take (lead + 1).toNat, some (digits.drop (lead + 1).toNat), none,
          by simp [JsonReading.numeral], ?_, ?_, rfl, rfl⟩
        · have positive : (lead + 1).toNat ≠ 0 := by omega
          refine JsonReading.isWhole_eq_true.mpr ⟨?_, ?_⟩
          · exact JsonReading.isDigits_of_subset (by simp [nonempty, positive])
              (List.take_subset _ _) digitsOk
          · rcases leading with notZero | ⟨rfl, rfl⟩
            · rw [List.head?_take, if_neg positive]
              exact .inl notZero
            · exact absurd (Nat.le_refl 1) long
        · exact JsonReading.isDigits_of_subset (by simp; omega) (List.drop_subset _ _) digitsOk
  next =>
    refine ⟨digits.take 1, if digits.length ≤ 1 then none else some (digits.drop 1),
      some (exponentChars lead), ?_, ?_, ?_, isExponent_exponentChars lead, ?_⟩
    · split <;> simp [JsonReading.numeral]
    · have single : (digits.take 1).length = 1 := by
        have := List.length_pos_of_ne_nil nonempty
        rw [List.length_take]
        omega
      refine JsonReading.isWhole_eq_true.mpr ⟨?_, .inr single⟩
      exact JsonReading.isDigits_of_subset (by simp [nonempty]) (List.take_subset _ _) digitsOk
    · split
      next => rfl
      next long =>
        have remaining : digits.drop 1 ≠ [] := by
          rw [ne_eq, List.drop_eq_nil_iff]
          exact long
        exact JsonReading.isDigits_of_subset remaining (List.drop_subset _ _) digitsOk
    · simp

private theorem withoutTrailingZeros_eq {digits : List Char} (nonempty : digits ≠ [])
    (leading : digits.head? ≠ some '0') :
    withoutTrailingZeros digits ≠ [] ∧ withoutTrailingZeros digits <+: digits := by
  have kept : digits.rdropWhile (· == '0') ≠ [] := by
    rw [ne_eq, List.rdropWhile_eq_nil_iff]
    intro allZero
    cases digits with
    | nil => exact nonempty rfl
    | cons first rest =>
        have isZero := allZero first List.mem_cons_self
        simp_all
  have same : withoutTrailingZeros digits = digits.rdropWhile (· == '0') := by
    rw [withoutTrailingZeros]
    split
    next allZero => exact absurd allZero kept
    next => rfl
  rw [same]
  exact ⟨kept, List.rdropWhile_prefix _ _⟩

theorem isNormal_ofScaled {coefficient : Nat} (positive : 0 < coefficient) (unit : Int) :
    (ofScaled coefficient unit).IsNormal := by
  have leading := head_toDigits_ne_zero positive
  obtain ⟨nonempty, ⟨rest, split⟩⟩ := withoutTrailingZeros_eq Nat.toDigits_ne_nil leading
  constructor
  · have digits := (JsonReading.isWhole_eq_true.mp (isWhole_toDigits coefficient)).1
    exact JsonReading.isDigits_of_subset nonempty (List.IsPrefix.subset ⟨rest, split⟩) digits
  · refine .inl ?_
    rw [← split, List.head?_append_of_ne_nil _ nonempty] at leading
    exact leading

/-! The place of the first digit is not above that of the leading digit of the exact value, so what
is rounded there is at least one. -/

private theorem pow_decimalLength_le {number : Nat} (positive : 0 < number) :
    10 ^ (decimalLength number - 1) ≤ number ∧ number < 10 ^ decimalLength number := by
  rw [decimalLength, if_neg (by omega)]
  have length := Nat.length_toDigits_pos (b := 10) (n := number)
  constructor
  · rcases Nat.eq_zero_or_pos ((Nat.toDigits 10 number).length - 1) with isZero | more
    · rw [isZero]
      exact positive
    · have notFewer := Nat.length_toDigits_le_iff (b := 10) (n := number) (by decide) more
      omega
  · exact (Nat.length_toDigits_le_iff (by decide) length).mp (Nat.le_refl _)

private theorem le_mul_pow_decimalLength {numerator denominator : Nat} (positive : 0 < numerator)
    (below : numerator < denominator) :
    0 < decimalLength ((denominator + numerator - 1) / numerator - 1) ∧
      denominator ≤ numerator *
        10 ^ decimalLength ((denominator + numerator - 1) / numerator - 1) := by
  have rounded : denominator ≤ numerator * ((denominator + numerator - 1) / numerator) := by
    have remainder := Nat.mod_lt (denominator + numerator - 1) positive
    have division := Nat.div_add_mod (denominator + numerator - 1) numerator
    omega
  generalize (denominator + numerator - 1) / numerator = above at rounded
  have moreThanOne : 1 < above := by
    by_contra atMostOne
    have := Nat.mul_le_mul_left numerator (Nat.le_of_not_lt atMostOne)
    omega
  obtain ⟨-, enough⟩ := pow_decimalLength_le (show 0 < above - 1 by omega)
  constructor
  · rw [decimalLength, if_neg (by omega)]
    exact Nat.length_toDigits_pos
  · calc denominator ≤ numerator * above := rounded
      _ ≤ numerator * 10 ^ decimalLength (above - 1) := Nat.mul_le_mul_left _ (by omega)

theorem perUnit_le {numerator denominator : Nat} (positive : 0 < numerator)
    (divides : 0 < denominator) (unit : Int) (low : unit ≤ leadOf numerator denominator) :
    0 < (perUnit numerator denominator unit).2 ∧
      (perUnit numerator denominator unit).2 ≤ (perUnit numerator denominator unit).1 := by
  rw [leadOf] at low
  simp only [perUnit, Nat.pow_eq]
  split at low
  next atLeastOne =>
    split
    next nonneg =>
      have quotient := (pow_decimalLength_le (Nat.div_pos atLeastOne divides)).1
      refine ⟨Nat.mul_pos divides (Nat.pow_pos (by decide)), ?_⟩
      calc denominator * 10 ^ unit.toNat
          ≤ denominator * 10 ^ (decimalLength (numerator / denominator) - 1) :=
            Nat.mul_le_mul_left _ (Nat.pow_le_pow_right (by decide) (by omega))
        _ ≤ denominator * (numerator / denominator) := Nat.mul_le_mul_left _ quotient
        _ ≤ numerator := Nat.mul_div_le _ _
    next => exact ⟨divides, Nat.le_trans atLeastOne (Nat.le_mul_of_pos_right _
        (Nat.pow_pos (by decide)))⟩
  next belowOne =>
    obtain ⟨length, enough⟩ := le_mul_pow_decimalLength positive (Nat.lt_of_not_le belowOne)
    split
    next nonneg => omega
    next =>
      refine ⟨divides, Nat.le_trans enough ?_⟩
      exact Nat.mul_le_mul_left _ (Nat.pow_le_pow_right (by decide) (by omega))

theorem one_le_roundHalfEven {numerator denominator : Nat} (positive : 0 < denominator)
    (atLeastOne : denominator ≤ numerator) : 0 < roundHalfEven numerator denominator :=
  Nat.lt_of_lt_of_le (Nat.div_pos atLeastOne positive) (roundHalfEven_bounds _ _).1

theorem isNormal_significant {count numerator denominator : Nat} (positive : 0 < numerator)
    (divides : 0 < denominator) (some : 0 < count) :
    (significant count numerator denominator).IsNormal := by
  obtain ⟨divisor, atLeastOne⟩ := perUnit_le positive divides
    (leadOf numerator denominator - (count : Int) + 1) (by omega)
  exact isNormal_ofScaled (one_le_roundHalfEven divisor atLeastOne) _

end Decimal

namespace Double

theorem isNormal_candidate {interval : Interval} (positive : 0 < interval.value)
    (divides : 0 < interval.denominator) {count : Nat} (some : 0 < count) {decimal : Decimal}
    (found : interval.candidate? count = .some decimal) : decimal.IsNormal := by
  obtain ⟨divisor, atLeastOne⟩ := Decimal.perUnit_le positive divides
    (Decimal.leadOf interval.value interval.denominator - (count : Int) + 1) (by omega)
  have rounded := Decimal.one_le_roundHalfEven divisor atLeastOne
  have quotient := Nat.div_pos atLeastOne divisor
  simp only [Interval.candidate?] at found
  generalize roundHalfEven _ _ = near at found rounded
  by_cases nearHolds : interval.holds
      (Decimal.leadOf interval.value interval.denominator - (count : Int) + 1) near = true
  · rw [if_pos nearHolds] at found
    cases found
    exact Decimal.isNormal_ofScaled rounded _
  · rw [if_neg nearHolds] at found
    obtain ⟨-, found⟩ := Option.ite_none_right_eq_some.mp found
    cases found
    refine Decimal.isNormal_ofScaled ?_ _
    split <;> omega

theorem isNormal_shortest {value : Double} (nonzero : value.magnitude.coefficient ≠ 0) :
    value.shortest.IsNormal := by
  have power (places : Nat) : 0 < 1 <<< places := by
    rw [Nat.one_shiftLeft]
    exact Nat.two_pow_pos places
  have positive : 0 < value.interval.value := Nat.mul_pos (by omega) (power _)
  have divides : 0 < value.interval.denominator := power _
  simp only [shortest]
  cases found : (List.range 16).findSome? fun shorter =>
      value.interval.candidate? (shorter + 1) with
  | none => exact Decimal.isNormal_significant positive divides (by decide)
  | some decimal =>
      obtain ⟨shorter, -, candidate⟩ := List.exists_of_findSome?_eq_some found
      exact isNormal_candidate positive divides (Nat.succ_pos shorter) candidate

/-- The text of a finite double has the form of a JSON number that is no integer. -/
theorem doubleChars_eq_numeral {value : Double} (finite : value.isFinite = true) :
    ∃ whole fraction exponent,
      Json.doubleChars value =
        JsonReading.signed value.negative (JsonReading.numeral whole fraction exponent) ∧
      JsonReading.isWhole whole = true ∧ fraction.all JsonReading.isDigits = true ∧
      exponent.all JsonReading.isExponent = true ∧
      (fraction.isSome || exponent.isSome) = true := by
  obtain ⟨decimal, normal, written⟩ : ∃ decimal : Decimal, decimal.IsNormal ∧
      Json.doubleChars value =
        JsonReading.signed value.negative (decimal.render Json.numberStyle) := by
    have isNumber : value.isNaN = false := by
      have field : value.exponent ≠ 2047 := by simpa [isFinite] using finite
      simp [isNaN, field]
    by_cases zero : value.magnitude.coefficient = 0
    · refine ⟨⟨['0'], 0⟩, ⟨by decide, .inr ⟨rfl, rfl⟩⟩, ?_⟩
      cases sign : value.negative <;>
        simp [Json.doubleChars, Double.render, isNumber, finite, zero, sign, JsonReading.signed]
    · refine ⟨value.shortest, isNormal_shortest zero, ?_⟩
      cases sign : value.negative <;>
        simp [Json.doubleChars, Double.render, isNumber, finite, zero, sign, JsonReading.signed]
  obtain ⟨whole, fraction, exponent, rendered, form⟩ := normal.numeral
  exact ⟨whole, fraction, exponent, by rw [written, rendered], form⟩

theorem number_doubleChars {value : Double} (finite : value.isFinite = true) :
    JsonReading.number (Json.doubleChars value) = some (.decimal (Json.doubleChars value)) := by
  obtain ⟨whole, fraction, exponent, written, wholeOk, fractionOk, exponentOk, notInteger⟩ :=
    doubleChars_eq_numeral finite
  rw [written, JsonReading.number_numeral _ wholeOk fractionOk exponentOk, if_pos notInteger]

theorem isTokenChar_doubleChars {value : Double} (finite : value.isFinite = true) :
    ∀ char ∈ Json.doubleChars value, JsonReading.isTokenChar char = true := by
  obtain ⟨whole, fraction, exponent, written, wholeOk, fractionOk, exponentOk, -⟩ :=
    doubleChars_eq_numeral finite
  rw [written]
  exact JsonReading.isTokenChar_numeral _ wholeOk fractionOk exponentOk

end Double

end LuaBytecode
