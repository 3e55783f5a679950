import LuaBytecode.Instruction.Basic
import LuaBytecode.Proofs.DoubleExact
import Mathlib.Algebra.Order.Ring.Int

/-!
# Instruction words

A field of a word is a quotient and a remainder, whatever the word's size and sign. The fields of an
instruction lie side by side and together make up the low thirty-two bits of its word, so the
operation code and the operands determine these bits.
-/

set_option autoImplicit false

namespace LuaBytecode

namespace BitField

private theorem and_shiftLeft (word mask shift : Nat) :
    word &&& mask <<< shift = (word >>> shift &&& mask) <<< shift := by
  apply Nat.eq_of_testBit_eq
  intro index
  by_cases inside : shift ≤ index
  · simp [Nat.testBit_shiftLeft, Nat.testBit_shiftRight, inside, Nat.add_sub_cancel' inside]
  · simp [Nat.testBit_shiftLeft, inside]

theorem extract_negSucc (field : BitField) (flipped : Nat) :
    field.extract (.negSucc flipped) =
      2 ^ field.width - 1 - flipped / 2 ^ field.shift % 2 ^ field.width := by
  show (field.mask - (flipped &&& field.mask)) >>> field.shift = _
  rw [mask, and_shiftLeft, Nat.one_shiftLeft, Nat.and_two_pow_sub_one_eq_mod,
    Nat.shiftRight_eq_div_pow flipped, Nat.shiftLeft_eq, Nat.shiftLeft_eq, ← Nat.sub_mul,
    ← Nat.shiftLeft_eq, Nat.shiftLeft_shiftRight]

/-- The bits of a negative word are counted as if its sign bit went on without end, so that taking a
field divides towards minus infinity. -/
theorem extract_eq (field : BitField) (word : Int) :
    (field.extract word : Int) = word / 2 ^ field.shift % 2 ^ field.width := by
  cases word with
  | ofNat word =>
      have natural := field.extract_natCast word
      rw [Nat.shiftRight_eq_div_pow, Nat.one_shiftLeft] at natural
      rw [Int.ofNat_eq_natCast, natural]
      simp
  | negSucc flipped =>
      have quotient : Int.negSucc flipped / 2 ^ field.shift =
          Int.negSucc (flipped / 2 ^ field.shift) := by
        rw [Int.negSucc_ediv _ (Int.pow_pos (by decide)), Int.negSucc_eq]
        rfl
      have below : flipped / 2 ^ field.shift % 2 ^ field.width < 2 ^ field.width :=
        Nat.mod_lt _ (Nat.two_pow_pos _)
      rw [quotient, Int.negSucc_emod _ (Int.pow_pos (by decide)), extract_negSucc]
      rw [Int.ofNat_sub (Nat.le_sub_one_of_lt below), Int.ofNat_sub (Nat.two_pow_pos _)]
      simp

/-- Bits above a field have no part in it. -/
theorem extract_emod {field : BitField} {bits : Nat} (inside : field.shift + field.width ≤ bits)
    (word : Int) : field.extract (word % 2 ^ bits) = field.extract word := by
  obtain ⟨above, rfl⟩ := Nat.exists_eq_add_of_le inside
  have quotient : word % 2 ^ (field.shift + field.width + above) / 2 ^ field.shift =
      word / 2 ^ field.shift % 2 ^ (field.width + above) := by
    have positive : (0 : Int) < 2 ^ field.shift := Int.pow_pos (by decide)
    rw [Nat.add_assoc, Int.pow_add, Int.emod_def, Int.emod_def, Int.mul_assoc,
      Int.sub_mul_ediv_left _ _ (Int.ne_of_gt positive),
      Int.ediv_ediv_of_nonneg (Int.le_of_lt positive)]
  have same : (field.extract (word % 2 ^ (field.shift + field.width + above)) : Int) =
      field.extract word := by
    rw [extract_eq, extract_eq, quotient, Int.pow_add,
      Int.emod_emod_of_dvd _ (Int.dvd_mul_right _ _)]
  exact Int.ofNat_inj.mp same

end BitField

namespace Instruction

/-- The fields of an instruction, put back where its layout stores them. -/
def packed (instruction : Instruction) : Int :=
  match instruction.layout with
  | .abc => instruction.opcode + instruction.a * 2 ^ 6 + instruction.c * 2 ^ 14 +
      instruction.b * 2 ^ 23
  | .abx => instruction.opcode + instruction.a * 2 ^ 6 + instruction.b * 2 ^ 14
  | .asbx => instruction.opcode + instruction.a * 2 ^ 6 +
      (instruction.b + signedBias) * 2 ^ 14

theorem layout_ofWord (word : Int) :
    (ofWord word).layout = Layout.ofCode (ofWord word).opcode := by
  cases layout : Layout.ofCode (opcodeField.extract word) <;> simp [ofWord, layout]

theorem opcode_ofWord (word : Int) : (ofWord word).opcode = opcodeField.extract word := by
  cases layout : Layout.ofCode (opcodeField.extract word) <;> simp [ofWord, layout]

theorem raw_ofWord (word : Int) : (ofWord word).raw = word := by
  cases layout : Layout.ofCode (opcodeField.extract word) <;> simp [ofWord, layout]

theorem packed_ofWord (word : Int) : (ofWord word).packed = word % 2 ^ 32 := by
  have opcode := opcodeField.extract_eq word
  have a := aField.extract_eq word
  have b := bField.extract_eq word
  have c := cField.extract_eq word
  have bx := bxField.extract_eq word
  simp only [opcodeField, aField, bField, cField, bxField] at opcode a b c bx
  simp only [ofWord, opcodeField, aField, bField, cField, bxField]
  cases Layout.ofCode (BitField.extract ⟨0, 6⟩ word) with
  | abc =>
      simp only [packed, opcode, a, b, c]
      omega
  | abx =>
      simp only [packed, opcode, a, bx]
      omega
  | asbx =>
      simp only [packed, opcode, a, bx]
      omega

/-- Two instructions that are shown alike, though their words may differ above the low thirty-two
bits. -/
structure Agrees (left right : Instruction) : Prop where
  opcode : left.opcode = right.opcode
  a : left.a = right.a
  b : left.b = right.b
  c : left.c = right.c
  layout : left.layout = right.layout
  raw : left.raw % 2 ^ 32 = right.raw % 2 ^ 32

/-- Of decoded instructions the operation code and the operands tell everything that is stored. -/
theorem agrees_of_operands {left right : Int}
    (same : (ofWord left).operands = (ofWord right).operands) :
    (ofWord left).Agrees (ofWord right) := by
  simp only [operands, List.cons.injEq, and_true] at same
  obtain ⟨opcode, a, b, c⟩ := same
  have layout : (ofWord left).layout = (ofWord right).layout := by
    rw [layout_ofWord, layout_ofWord, opcode]
  have bits : (ofWord left).packed = (ofWord right).packed := by
    simp only [packed, opcode, a, b, c, layout]
  rw [packed_ofWord, packed_ofWord] at bits
  refine ⟨opcode, a, b, c, layout, ?_⟩
  rw [raw_ofWord, raw_ofWord, bits]

end Instruction

end LuaBytecode
