import LuaBytecode.Proofs.InstructionWord
import LuaBytecode.Proofs.Results
import Mathlib.Data.Int.Bitwise
import Mathlib.Data.Rat.Floor
import Mathlib.Order.CompletePartialOrder
import Mathlib.Order.Interval.Set.Disjoint

/-!
# Selected bits

A field selects bits of a word and nothing else, in words of any size and either sign. Hence a value
can be stored in a clear field without a change to the fields apart from it, and two fields side by
side read as one. The only limit is the mask, which cannot have more digits than a number can have.
-/

set_option autoImplicit false

namespace LuaBytecode

/-! ## Masks that can be made -/

theorem checkShift_eq_ok {digits : Nat} {bits : Int} :
    checkShift digits bits = .ok () ↔
      0 ≤ bits ∧ (digits = 0 ∨ digits + digitsFor bits.toNat ≤ digitLimit) := by
  rw [checkShift]
  split_ifs <;> simp <;> omega

theorem checkShift_eq_tooManyDigits {digits bits : Nat} (nonzero : digits ≠ 0)
    (large : digitLimit < digits + digitsFor bits) :
    checkShift digits bits = .error .tooManyDigits := by
  have nonneg : ¬(bits : Int) < 0 := by omega
  rw [checkShift, if_neg nonneg, if_neg nonzero, Int.toNat_natCast, if_pos large]

theorem digitsFor_eq_zero {bits : Nat} : digitsFor bits = 0 ↔ bits = 0 := by
  simp only [digitsFor, digitBits]
  omega

namespace BitField

/-- A number can have the digits of the mask, and those of the number of one more bit from which the
ones of the mask are made. The mask of a field without bits is zero, wherever the field lies. -/
def HasMask (field : BitField) : Prop :=
  field.width = 0 ∨
    1 + digitsFor field.width ≤ digitLimit ∧
      digitsFor field.width + digitsFor field.shift ≤ digitLimit

theorem checkMask_eq_ok {shift width : Int} :
    checkMask shift width = .ok () ↔
      0 ≤ shift ∧ 0 ≤ width ∧ HasMask ⟨shift.toNat, width.toNat⟩ := by
  rw [checkMask, bind_eq_ok, Unique.exists_iff]
  simp only [PUnit.default_eq_unit, checkShift_eq_ok, digitsFor_eq_zero, HasMask]
  constructor
  · rintro ⟨⟨widthNonneg, ones⟩, shiftNonneg, mask⟩
    refine ⟨shiftNonneg, widthNonneg, ?_⟩
    exact mask.imp id fun held => ⟨ones.resolve_left (by decide), held⟩
  · rintro ⟨shiftNonneg, widthNonneg, mask⟩
    refine ⟨⟨widthNonneg, .inr ?_⟩, shiftNonneg, mask.imp id And.right⟩
    rcases mask with empty | ⟨ones, -⟩
    · rw [empty]
      decide
    · exact ones

theorem checkMask_eq_tooManyDigits {field : BitField} (large : ¬field.HasMask) :
    checkMask field.shift field.width = .error .tooManyDigits := by
  obtain ⟨someBits, tooLarge⟩ := not_or.mp large
  rw [checkMask, Int.toNat_natCast]
  by_cases ones : 1 + digitsFor field.width ≤ digitLimit
  · have held : checkShift 1 field.width = .ok () :=
      checkShift_eq_ok.mpr ⟨Int.natCast_nonneg _, .inr ones⟩
    have someDigits : digitsFor field.width ≠ 0 := mt digitsFor_eq_zero.mp someBits
    rw [held]
    exact checkShift_eq_tooManyDigits someDigits (by omega)
  · rw [checkShift_eq_tooManyDigits Nat.one_ne_zero (Nat.lt_of_not_le ones)]
    rfl

theorem extractAt_eq_ok {shift width word : Int} {value : Nat} :
    extractAt shift width word = .ok value ↔
      ∃ field : BitField, shift = field.shift ∧ width = field.width ∧ field.HasMask ∧
        value = field.extract word := by
  rw [extractAt, bind_eq_ok, Unique.exists_iff]
  simp only [PUnit.default_eq_unit, checkMask_eq_ok]
  constructor
  · rintro ⟨⟨shiftNonneg, widthNonneg, mask⟩, ⟨⟩⟩
    exact ⟨_, (Int.toNat_of_nonneg shiftNonneg).symm, (Int.toNat_of_nonneg widthNonneg).symm, mask,
      rfl⟩
  · rintro ⟨field, rfl, rfl, mask, rfl⟩
    exact ⟨⟨Int.natCast_nonneg _, Int.natCast_nonneg _, mask⟩, rfl⟩

theorem extractAt_eq_tooManyDigits {field : BitField} (large : ¬field.HasMask) (word : Int) :
    extractAt field.shift field.width word = .error .tooManyDigits := by
  rw [extractAt, checkMask_eq_tooManyDigits large]
  rfl

/-! ## Bits of a field -/

/-- The positions that the field has in a word. -/
def bits (field : BitField) : Set Nat :=
  Set.Ico field.shift (field.shift + field.width)

theorem testBit_extract (field : BitField) (word : Int) (bit : Nat) :
    (field.extract word).testBit bit =
      (decide (bit < field.width) && word.testBit (field.shift + bit)) := by
  cases word with
  | ofNat word =>
      rw [Int.ofNat_eq_natCast, extract_natCast, Nat.one_shiftLeft, Nat.testBit_mod_two_pow,
        Nat.testBit_shiftRight]
      rfl
  | negSucc flipped =>
      have below : flipped / 2 ^ field.shift % 2 ^ field.width < 2 ^ field.width :=
        Nat.mod_lt _ (Nat.two_pow_pos _)
      rw [extract_negSucc, Nat.sub_sub, Nat.add_comm 1, Nat.testBit_two_pow_sub_succ below,
        Nat.testBit_mod_two_pow, Nat.testBit_div_two_pow, Nat.add_comm bit]
      by_cases inside : bit < field.width
      · simp [inside, Int.testBit]
      · simp [inside]

theorem extract_lt (field : BitField) (word : Int) : field.extract word < 2 ^ field.width := by
  have remainder := Int.emod_lt_of_pos (word / 2 ^ field.shift)
    (Int.pow_pos (by decide) : (0 : Int) < 2 ^ field.width)
  rw [← extract_eq] at remainder
  exact_mod_cast remainder

theorem extract_eq_floor (field : BitField) (word : Int) :
    (field.extract word : Int) = ⌊(word : ℚ) / 2 ^ field.shift⌋ % 2 ^ field.width := by
  have floor := Rat.floor_intCast_div_natCast word (2 ^ field.shift)
  push_cast at floor
  rw [floor, extract_eq]

/-- Bits below a field have no part in it. -/
theorem extract_ediv (field : BitField) (low : Nat) (word : Int) :
    field.extract (word / 2 ^ low) = extract ⟨low + field.shift, field.width⟩ word := by
  have same : (field.extract (word / 2 ^ low) : Int) =
      extract ⟨low + field.shift, field.width⟩ word := by
    rw [extract_eq, extract_eq, Int.ediv_ediv_of_nonneg (Int.le_of_lt (Int.pow_pos (by decide))),
      Int.pow_add]
  exact Int.ofNat_inj.mp same

theorem extract_beside (shift low high : Nat) (word : Int) :
    extract ⟨shift, low + high⟩ word =
      extract ⟨shift, low⟩ word + 2 ^ low * extract ⟨shift + low, high⟩ word := by
  apply Nat.eq_of_testBit_eq
  intro bit
  rw [Nat.add_comm (extract _ _), Nat.testBit_two_pow_mul_add _ (extract_lt ⟨shift, low⟩ word)]
  simp only [testBit_extract]
  by_cases inLow : bit < low
  · simp [inLow, Nat.lt_add_right high inLow]
  · have inHigh : bit < low + high ↔ bit - low < high := by omega
    have position : shift + low + (bit - low) = shift + bit := by omega
    simp [inLow, inHigh, position]

/-! ## Storing in a clear field -/

variable {field other : BitField} {word : Int} {value : Nat}

private theorem ediv_stored (field : BitField) (word : Int) (value : Nat) :
    (word + value * 2 ^ field.shift) / 2 ^ field.shift = word / 2 ^ field.shift + value :=
  Int.add_mul_ediv_right _ _ (Int.ne_of_gt (Int.pow_pos (by decide)))

private theorem dvd_of_clear (clear : field.extract word = 0) :
    (2 : Int) ^ field.width ∣ word / 2 ^ field.shift := by
  apply Int.dvd_of_emod_eq_zero
  rw [← extract_eq, clear]
  rfl

theorem extract_stored (clear : field.extract word = 0) (fits : value < 2 ^ field.width) :
    field.extract (word + value * 2 ^ field.shift) = value := by
  have same : (field.extract (word + value * 2 ^ field.shift) : Int) = value := by
    rw [extract_eq, ediv_stored, Int.add_emod, Int.emod_eq_zero_of_dvd (dvd_of_clear clear),
      Int.zero_add, Int.emod_emod, Int.emod_eq_of_lt (Int.natCast_nonneg value)]
    exact_mod_cast fits
  exact Int.ofNat_inj.mp same

theorem extract_stored_above (higher : other.shift + other.width ≤ field.shift) (word : Int)
    (value : Nat) : other.extract (word + value * 2 ^ field.shift) = other.extract word := by
  rw [← extract_emod higher, Int.add_mul_emod_self_right, extract_emod higher]

/-- Where the field was clear, a value that fits in it is not carried past it. -/
theorem extract_stored_below (lower : field.shift + field.width ≤ other.shift)
    (clear : field.extract word = 0) (fits : value < 2 ^ field.width) :
    other.extract (word + value * 2 ^ field.shift) = other.extract word := by
  have noCarry : (word + value * 2 ^ field.shift) / 2 ^ (field.shift + field.width) =
      word / 2 ^ (field.shift + field.width) := by
    have nonneg : (0 : Int) ≤ 2 ^ field.shift := Int.le_of_lt (Int.pow_pos (by decide))
    rw [Int.pow_add, ← Int.ediv_ediv_of_nonneg nonneg, ← Int.ediv_ediv_of_nonneg nonneg,
      ediv_stored, Int.add_ediv_of_dvd_left (dvd_of_clear clear),
      Int.ediv_eq_zero_of_lt (Int.natCast_nonneg value) (by exact_mod_cast fits), Int.add_zero]
  obtain ⟨gap, position⟩ := Nat.exists_eq_add_of_le lower
  have above (word : Int) : other.extract word =
      extract ⟨gap, other.width⟩ (word / 2 ^ (field.shift + field.width)) := by
    rw [extract_ediv, ← position]
  rw [above, noCarry, ← above]

theorem extract_stored_of_disjoint (apart : Disjoint other.bits field.bits)
    (clear : field.extract word = 0) (fits : value < 2 ^ field.width) :
    other.extract (word + value * 2 ^ field.shift) = other.extract word := by
  rw [bits, bits, Set.Ico_disjoint_Ico] at apart
  -- A field without bits is apart from every field, also from one that lies around it.
  obtain empty | empty | higher | lower : other.width = 0 ∨ field.width = 0 ∨
      other.shift + other.width ≤ field.shift ∨ field.shift + field.width ≤ other.shift := by
    omega
  · have stored := other.extract_lt (word + value * 2 ^ field.shift)
    have before := other.extract_lt word
    rw [empty] at stored before
    omega
  · rw [empty] at fits
    rw [Nat.lt_one_iff.mp fits, Int.natCast_zero, Int.zero_mul, Int.add_zero]
  · exact extract_stored_above higher word value
  · exact extract_stored_below lower clear fits

/-! ## Exact selection -/

/-- Every field whose mask a number can hold has a value in every word, and no other field has one.
A field of a word, also of a negative one with its sign bit repeated without end, has exactly the
bits of the word at its positions, and so is a quotient rounded down and its remainder. A value that
fits in a clear field is stored by adding it, which leaves alone all fields apart from this one, and
two fields side by side make up one field. -/
theorem extract_selects :
    (∀ (shift width word : Int) (value : Nat),
      extractAt shift width word = .ok value ↔
        ∃ field : BitField, shift = field.shift ∧ width = field.width ∧ field.HasMask ∧
          value = field.extract word) ∧
    (∀ (field : BitField) (word : Int), ¬field.HasMask →
      extractAt field.shift field.width word = .error .tooManyDigits) ∧
    (∀ (field : BitField) (word : Int),
      (field.extract word : Int) = ⌊(word : ℚ) / 2 ^ field.shift⌋ % 2 ^ field.width ∧
      field.extract word ≤ 2 ^ field.width - 1 ∧
      ∀ bit, (field.extract word).testBit bit =
        (decide (bit < field.width) && word.testBit (field.shift + bit))) ∧
    (∀ (first second : BitField) (word : Int) (value : Nat), Disjoint first.bits second.bits →
      second.extract word = 0 → value < 2 ^ second.width →
      second.extract (word + value * 2 ^ second.shift) = value ∧
        first.extract (word + value * 2 ^ second.shift) = first.extract word) ∧
    ∀ (shift low high : Nat) (word : Int),
      extract ⟨shift, low + high⟩ word =
        extract ⟨shift, low⟩ word + 2 ^ low * extract ⟨shift + low, high⟩ word := by
  refine ⟨?_, ?_, ?_, ?_, extract_beside⟩
  · intro shift width word value
    exact extractAt_eq_ok
  · intro field word large
    exact extractAt_eq_tooManyDigits large word
  · intro field word
    exact ⟨field.extract_eq_floor word, Nat.le_sub_one_of_lt (field.extract_lt word),
      field.testBit_extract word⟩
  · intro first second word value apart clear fits
    exact ⟨extract_stored clear fits, extract_stored_of_disjoint apart clear fits⟩

/-- The operand B, clear in a negative word, is filled with ones beside the operand C, and with it
makes up the operand Bx. -/
theorem extract_selects_operandB :
    extractAt 23 9 (-4294885346) = .ok 0 ∧
    extractAt 0 1180591620717411303424 (-4294885346) = .error .tooManyDigits ∧
    Disjoint Instruction.cField.bits Instruction.bField.bits ∧
    Instruction.bField.extract (-4294885346) = 0 ∧
    Instruction.bField.extract (-4294885346 + (511 : Nat) * 2 ^ 23) = 511 ∧
    Instruction.cField.extract (-4294885346 + (511 : Nat) * 2 ^ 23) = 5 ∧
    Instruction.bxField.extract (-4294885346 + (511 : Nat) * 2 ^ 23) = 5 + 2 ^ 9 * 511 := by
  obtain ⟨found, refused, -, stored, beside⟩ := extract_selects
  have mask : Instruction.bField.HasMask := .inr ⟨by decide, by decide⟩
  have large : ¬HasMask ⟨0, 1180591620717411303424⟩ := by
    rintro (empty | ⟨ones, -⟩)
    · cases empty
    · exact absurd ones (by decide)
  have apart : Disjoint Instruction.cField.bits Instruction.bField.bits :=
    Set.Ico_disjoint_Ico.mpr (by decide)
  have clear : Instruction.bField.extract (-4294885346) = 0 := rfl
  have before : Instruction.cField.extract (-4294885346) = 5 := rfl
  obtain ⟨b, c⟩ := stored Instruction.cField Instruction.bField (-4294885346) 511 apart clear
    (by decide)
  rw [before] at c
  have bx := beside 14 9 9 (-4294885346 + (511 : Nat) * 2 ^ 23)
  refine ⟨(found _ _ _ _).mpr ⟨Instruction.bField, rfl, rfl, mask, rfl⟩, refused _ _ large, apart,
    clear, b, c, bx.trans ?_⟩
  exact congrArg₂ (fun low high => low + 2 ^ 9 * high) c b

/-- A single bit so far up that its mask has more digits than a number can have. It would be zero in
the word zero. -/
theorem extractAt_remoteBit :
    extractAt 1180591620717411303424 1 0 = .error .tooManyDigits ∧
      ¬∃ value, extractAt 1180591620717411303424 1 0 = .ok value := by
  have failed : extractAt 1180591620717411303424 1 0 = .error .tooManyDigits := rfl
  refine ⟨failed, ?_⟩
  rintro ⟨value, found⟩
  rw [failed] at found
  cases found

end BitField

end LuaBytecode
