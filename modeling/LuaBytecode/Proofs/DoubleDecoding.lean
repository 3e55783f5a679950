import LuaBytecode.Proofs.ExactValue
import LuaBytecode.Proofs.InstructionWord
import LuaBytecode.Proofs.Reading
import Mathlib.Tactic.Ring

/-!
# Two ways to decode a double

A double of eight bytes is taken as the pattern it is stored in, and one of any other width but four
is computed from the fields of its low eight bytes. Both ways give the same double for the same
pattern: no step of the computation rounds, and bits past the sixty-fourth have no part in it.
-/

set_option autoImplicit false

namespace LuaBytecode

/-! ## Low bytes -/

namespace Bytes

theorem littleEndian_take (bytes : Bytes) (count : Nat) :
    littleEndian (bytes.take count) = littleEndian bytes % capacity count := by
  induction bytes generalizing count with
  | nil => simp [littleEndian]
  | cons byte rest ih =>
      cases count with
      | zero => simp [littleEndian, capacity_zero, Nat.mod_one]
      | succ count =>
          have byteFits : byte.toNat < 256 := byte.toNat_lt
          have remainder : (byte.toNat + 256 * littleEndian rest) % 256 = byte.toNat := by omega
          have quotient : (byte.toNat + 256 * littleEndian rest) / 256 = littleEndian rest := by
            omega
          rw [List.take_succ_cons, littleEndian, littleEndian, ih, capacity_succ, Nat.mod_mul,
            remainder, quotient]

theorem littleEndian_append_zeros (bytes : Bytes) (count : Nat) :
    littleEndian (bytes ++ List.replicate count 0) = littleEndian bytes := by
  have zeros : littleEndian (List.replicate count 0) = 0 := by
    induction count with
    | zero => rfl
    | succ count ih => rw [List.replicate_succ, littleEndian, ih]; rfl
  induction bytes with
  | nil => rw [List.nil_append, zeros]; rfl
  | cons byte rest ih => rw [List.cons_append, littleEndian, littleEndian, ih]

end Bytes

/-- The eight least significant bytes of a field, the least significant first. A field with fewer is
continued with zeros. -/
def ByteOrder.lowEight (order : ByteOrder) (bytes : Bytes) : Bytes :=
  (order.leastFirst bytes ++ List.replicate 8 0).take 8

theorem ByteOrder.littleEndian_lowEight (order : ByteOrder) (bytes : Bytes) :
    Bytes.littleEndian (order.lowEight bytes) = order.unsigned bytes % 2 ^ 64 := by
  rw [lowEight, Bytes.littleEndian_take, Bytes.littleEndian_append_zeros]
  rfl

/-! ## Reading -/

/-- A number is read from the bytes of its field, wherever they stand. -/
theorem Number.read_between {header : Header} {bytes : Bytes}
    (width : header.widths.number = bytes.length) (leading following : Bytes) :
    read header (leading ++ bytes ++ following).toArray leading.length =
      ⟨.ok (ofBytes header bytes), leading.length + bytes.length, []⟩ := by
  have nonneg : 0 ≤ header.widths.number := by omega
  have count : header.widths.number.toNat = bytes.length := by omega
  have inside : leading.length + bytes.length ≤ (leading ++ bytes ++ following).toArray.size := by
    simp
  have stored : (Reader.bytes bytes.length (leading ++ bytes ++ following).toArray
      leading.length) = ⟨.ok bytes, leading.length + bytes.length, []⟩ := by
    rw [Reader.bytes, if_pos inside, Reader.toList_extract]
    simp
  rw [read, Reader.field_of_nonneg nonneg, count, Reader.bind_of_ok (congrArg Run.result stored),
    stored]
  rfl

/-! ## Exact steps -/

namespace Double

theorem ofSignificand?_eq_some {negative : Bool} {coefficient : Nat} {exponent : Int}
    {value : Double} (made : ofSignificand? negative coefficient exponent = some value) :
    value.negative = negative ∧ value.isFinite := by
  rw [ofSignificand?] at made
  split at made
  next =>
    cases made
    exact ⟨rfl, rfl⟩
  next =>
    simp only at made
    split at made
    next inRange =>
      cases made
      refine ⟨rfl, ?_⟩
      simp only [isFinite, bne_iff_ne, ne_eq, Fin.ext_iff]
      exact Nat.ne_of_lt inRange
    next => cases made

theorem nearest?_eq_some {negative : Bool} {size : Magnitude} {value : Double}
    (rounded : nearest? negative size = some value) :
    value.negative = negative ∧ value.isFinite := by
  simp only [nearest?] at rounded
  split_ifs at rounded <;> exact ofSignificand?_eq_some rounded

theorem exactValue?_of_nearest? {size : Magnitude} {value : Double}
    (rounded : nearest? false size = some value) :
    (Number.double value).exactValue? = some value.magnitude.exact := by
  obtain ⟨positive, finite⟩ := nearest?_eq_some rounded
  rw [Number.exactValue?, if_pos finite, exact, positive, if_neg (by decide)]

theorem exactValue?_negated {value : Double} (positive : value.negative = false) :
    (Number.double value.negated).exactValue? =
      (Number.double value).exactValue?.map fun exact => -exact := by
  have size : value.negated.exact = -value.exact := by
    rw [exact, exact, positive]
    rfl
  have finite : value.negated.isFinite = value.isFinite := rfl
  rw [Number.exactValue?, Number.exactValue?, finite, size]
  cases value.isFinite <;> rfl

/-- The rational number of a normal double, from its fields. -/
theorem IsNormal.exact_magnitude {value : Double} (normal : value.IsNormal) :
    value.magnitude.exact =
      (2 ^ 52 + (value.fraction.val : ℚ)) * 2 ^ ((value.exponent.val : ℤ) - 1075) := by
  rw [magnitude_of_isNormal normal, Magnitude.exact, significand]
  push_cast
  norm_num

/-- The doubles that the computation of a double from the fields of its pattern passes through. Each
is the exact result of its step, and so is the double at the end. -/
structure ExactSteps (sign exponent fraction : Nat) (mantissa significand scaled value : Double) :
    Prop where
  divided : nearest? false ⟨fraction, -52⟩ = some mantissa ∧
    (Number.double mantissa).exactValue? = some ((fraction : ℚ) / 2 ^ 52)
  added : nearest? false (Magnitude.add ⟨1, 0⟩ mantissa.magnitude) = some significand ∧
    (Number.double significand).exactValue? = some (1 + (fraction : ℚ) / 2 ^ 52)
  raised : nearest? false (significand.magnitude.scale ((exponent : ℤ) - 1023)) = some scaled ∧
    (Number.double scaled).exactValue? =
      some ((1 + (fraction : ℚ) / 2 ^ 52) * 2 ^ ((exponent : ℤ) - 1023))
  signed : value = if sign = 0 then scaled else scaled.negated
  exactValue : (Number.double value).exactValue? =
    some ((-1) ^ sign * (2 ^ 52 + (fraction : ℚ)) * 2 ^ ((exponent : ℤ) - 1075))

theorem extract_fields (word : Int) :
    signBit.extract word ≤ 1 ∧ exponentBits.extract word < 2048 ∧
      fractionBits.extract word < 0x10000000000000 := by
  have sign := signBit.extract_eq word
  have exponent := exponentBits.extract_eq word
  have fraction := fractionBits.extract_eq word
  simp only [signBit, exponentBits, fractionBits] at sign exponent fraction ⊢
  omega

/-- No step from the fields of a normal double to the double has to round. -/
theorem ofWord_exactSteps {word : Int} (positive : 1 ≤ exponentBits.extract word)
    (finite : exponentBits.extract word ≤ 2046) :
    ∃ mantissa significand scaled, ExactSteps (signBit.extract word) (exponentBits.extract word)
      (fractionBits.extract word) mantissa significand scaled (ofWord word) := by
  obtain ⟨signRange, exponentRange, fractionRange⟩ := extract_fields word
  generalize ofWordIs : ofWord word = value
  rw [ofWord, if_neg (by omega), if_neg (by omega)] at ofWordIs
  generalize signBit.extract word = sign at *
  generalize exponentBits.extract word = exponent at *
  generalize fractionBits.extract word = fraction at *
  have normal : IsNormal ⟨false, ⟨exponent, exponentRange⟩, ⟨fraction, fractionRange⟩⟩ :=
    ⟨positive, finite⟩
  obtain ⟨mantissa, shift, divided, size⟩ := fraction_exact ⟨fraction, fractionRange⟩
  have added := one_add_exact ⟨fraction, fractionRange⟩ size
  have raised := scale_exact normal
  simp only at divided size added raised
  have mantissaValue : mantissa.magnitude.exact = (fraction : ℚ) / 2 ^ 52 := by
    rw [size, Magnitude.exact, Nat.shiftLeft_eq, zpow_sub₀ (by norm_num), zpow_natCast]
    push_cast
    field_simp
  have significandValue := (isNormal_significand ⟨fraction, fractionRange⟩).exact_magnitude
  have scaledValue := normal.exact_magnitude
  simp only at significandValue scaledValue
  simp only [nearest, divided, added, raised, Option.getD_some] at ofWordIs
  refine ⟨_, _, _, ⟨divided, ?_⟩, ⟨added, ?_⟩, ⟨raised, ?_⟩, ofWordIs.symm, ?_⟩
  · rw [exactValue?_of_nearest? divided, mantissaValue]
  · have unit : ((1023 : Fin 2048).val : ℤ) - 1075 = -52 := by decide
    rw [exactValue?_of_nearest? added, significandValue, unit]
    norm_num
    ring
  · have split : (2 : ℚ) ^ ((exponent : ℤ) - 1075) = 2 ^ ((exponent : ℤ) - 1023) / 2 ^ 52 := by
      rw [← zpow_natCast, ← zpow_sub₀ (by norm_num)]
      congr 1
      omega
    rw [exactValue?_of_nearest? raised, scaledValue, split]
    field_simp
  · have value := exactValue?_of_nearest? raised
    rw [scaledValue] at value
    obtain rfl | rfl : sign = 0 ∨ sign = 1 := by omega
    · rw [← ofWordIs, if_pos rfl, value, pow_zero, one_mul]
    · rw [← ofWordIs, if_neg (by decide), exactValue?_negated rfl, value, pow_one, Option.map_some]
      congr 1
      ring

/-- Bits past the sixty-fourth are ignored, also those of a negative word. -/
theorem ofWord_emod (word : Int) : ofWord (word % 2 ^ 64) = ofWord word := by
  have sign : signBit.extract (word % 2 ^ 64) = signBit.extract word :=
    BitField.extract_emod (by decide) word
  have exponent : exponentBits.extract (word % 2 ^ 64) = exponentBits.extract word :=
    BitField.extract_emod (by decide) word
  have fraction : fractionBits.extract (word % 2 ^ 64) = fractionBits.extract word :=
    BitField.extract_emod (by decide) word
  simp only [ofWord, sign, exponent, fraction]

end Double

/-! ## Agreement -/

theorem Number.ofBytes_eight {header : Header} {bytes : Bytes}
    (float : header.integralNumbers = false) (width : header.widths.number = 8) :
    ofBytes header bytes = .double (Double.ofWord (header.order.unsigned bytes)) := by
  rw [ofBytes, if_neg (by simp [float]), if_pos width, Double.ofWord_natCast]

theorem Number.ofBytes_other {header : Header} {bytes : Bytes}
    (float : header.integralNumbers = false) (notEight : header.widths.number ≠ 8)
    (notFour : header.widths.number ≠ 4) :
    ofBytes header bytes =
      .double (Double.ofWord (Bytes.littleEndian (header.order.lowEight bytes))) := by
  rw [ofBytes, if_neg (by simp [float]), if_neg notEight, if_neg notFour,
    ByteOrder.littleEndian_lowEight]
  rfl

/-- The double that is read from eight bytes is the one that is computed from their fields, and the
computation is exact. It depends on the low sixty-four bits of a word alone, so that numbers of
other widths than four and eight depend on their eight least significant bytes alone. -/
theorem Double.decoders_agree :
    (∀ (header : Header) (leading bytes following : Bytes), header.integralNumbers = false →
      header.widths.number = 8 → bytes.length = 8 →
      Number.read header (leading ++ bytes ++ following).toArray leading.length =
        ⟨.ok (.double (ofWord (header.order.unsigned bytes))), leading.length + 8, []⟩) ∧
    (∀ word : Int, 1 ≤ exponentBits.extract word → exponentBits.extract word ≤ 2046 →
      ∃ mantissa significand scaled, ExactSteps (signBit.extract word)
        (exponentBits.extract word) (fractionBits.extract word) mantissa significand scaled
        (ofWord word)) ∧
    (∀ word : Int, ofWord word = ofWord (word % 2 ^ 64)) ∧
    ∀ (header : Header) (leading bytes following : Bytes), header.integralNumbers = false →
      header.widths.number = bytes.length → bytes.length ≠ 4 → bytes.length ≠ 8 →
      Number.read header (leading ++ bytes ++ following).toArray leading.length =
        ⟨.ok (.double (ofWord (Bytes.littleEndian (header.order.lowEight bytes)))),
          leading.length + bytes.length, []⟩ := by
  refine ⟨?_, ?_, ?_, ?_⟩
  · intro header leading bytes following float width length
    have stored : header.widths.number = bytes.length := by omega
    rw [Number.read_between stored, Number.ofBytes_eight float width, length]
  · intro word positive finite
    exact ofWord_exactSteps positive finite
  · intro word
    exact (ofWord_emod word).symm
  · intro header leading bytes following float width notFour notEight
    rw [Number.read_between width, Number.ofBytes_other float (by omega) (by omega)]

/-- The number minus five halves, most significant byte first, alone and behind two more bytes. -/
theorem Double.decoders_agree_minusFiveHalves :
    Number.read ⟨0x51, 0, 0, ⟨4, 8, 4, 8⟩, 0⟩ #[0xc0, 4, 0, 0, 0, 0, 0, 0] 0 =
      ⟨.ok (.double (ofWord 0xc004000000000000)), 8, []⟩ ∧
    Number.read ⟨0x51, 0, 0, ⟨4, 8, 4, 10⟩, 0⟩ #[0xff, 0xff, 0xc0, 4, 0, 0, 0, 0, 0, 0] 0 =
      ⟨.ok (.double (ofWord 0xc004000000000000)), 10, []⟩ ∧
    ofWord 0xc004000000000000 = ⟨true, 1024, ⟨0x4000000000000, by decide⟩⟩ ∧
    ∃ mantissa significand scaled, ExactSteps 1 1024 0x4000000000000 mantissa significand scaled
      (ofWord 0xc004000000000000) := by
  obtain ⟨eight, steps, -, other⟩ := decoders_agree
  exact ⟨eight ⟨0x51, 0, 0, ⟨4, 8, 4, 8⟩, 0⟩ [] [0xc0, 4, 0, 0, 0, 0, 0, 0] [] rfl rfl rfl,
    other ⟨0x51, 0, 0, ⟨4, 8, 4, 10⟩, 0⟩ [] [0xff, 0xff, 0xc0, 4, 0, 0, 0, 0, 0, 0] [] rfl rfl
      (by decide) (by decide), by decide,
    steps 0xc004000000000000 (by decide) (by decide)⟩

end LuaBytecode
