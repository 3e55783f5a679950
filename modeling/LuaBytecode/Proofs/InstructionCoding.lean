import LuaBytecode.Proofs.InstructionWord

/-!
# Instructions and the words that store them

Every word decodes to an instruction whose fields lie in the ranges of its layout, and the fields
put together again are the low thirty-two bits of the word. Every choice of fields in these ranges
is stored by exactly one word of thirty-two bits, which decodes to it.
-/

set_option autoImplicit false

namespace LuaBytecode

/-- The operands B and C for which a layout has room. -/
def Layout.Admits : Layout → Int → Int → Prop
  | .abc, b, c => (0 ≤ b ∧ b ≤ 511) ∧ 0 ≤ c ∧ c ≤ 511
  | .abx, b, c => (0 ≤ b ∧ b < 2 ^ 18) ∧ c = 0
  | .asbx, b, c => (-131071 ≤ b ∧ b ≤ 131072) ∧ c = 0

namespace Instruction

/-- The fields of the instruction lie in the ranges that its operation code gives them. -/
structure Storable (instruction : Instruction) : Prop where
  opcode : 0 ≤ instruction.opcode ∧ instruction.opcode ≤ 63
  a : 0 ≤ instruction.a ∧ instruction.a ≤ 255
  layout : instruction.layout = Layout.ofCode instruction.opcode
  operands : instruction.layout.Admits instruction.b instruction.c

/-- The word of thirty-two bits that stores the fields of an instruction. -/
def storedWord (instruction : Instruction) : Nat :=
  let front := instruction.opcode.toNat ||| instruction.a.toNat <<< 6
  match instruction.layout with
  | .abc => front ||| instruction.c.toNat <<< 14 ||| instruction.b.toNat <<< 23
  | .abx => front ||| instruction.b.toNat <<< 14
  | .asbx => front ||| (instruction.b + 131071).toNat <<< 14

/-! ## Fields side by side -/

/-- The eighteen bits of a word that follow the operand A. -/
def upperBits (instruction : Instruction) : Int :=
  match instruction.layout with
  | .abc => instruction.c + instruction.b * 2 ^ 9
  | .abx => instruction.b
  | .asbx => instruction.b + signedBias

theorem packed_eq (instruction : Instruction) :
    instruction.packed =
      instruction.opcode + instruction.a * 2 ^ 6 + instruction.upperBits * 2 ^ 14 := by
  cases layout : instruction.layout with
  | abc =>
      simp only [packed, upperBits, layout]
      omega
  | abx => simp only [packed, upperBits, layout]
  | asbx => simp only [packed, upperBits, layout]

theorem Storable.upperBits_range {instruction : Instruction} (storable : instruction.Storable) :
    0 ≤ instruction.upperBits ∧ instruction.upperBits < 2 ^ 18 := by
  have operands := storable.operands
  cases layout : instruction.layout with
  | abc =>
      rw [layout] at operands
      obtain ⟨bRange, cRange⟩ := operands
      simp only [upperBits, layout]
      omega
  | abx =>
      rw [layout] at operands
      simpa only [upperBits, layout] using operands.1
  | asbx =>
      rw [layout] at operands
      obtain ⟨bRange, -⟩ := operands
      simp only [upperBits, layout, signedBias]
      omega

theorem Storable.packed_range {instruction : Instruction} (storable : instruction.Storable) :
    0 ≤ instruction.packed ∧ instruction.packed < 2 ^ 32 := by
  have opcode := storable.opcode
  have a := storable.a
  have upper := storable.upperBits_range
  rw [packed_eq]
  omega

/-- The bits of an instruction tell its fields, since they tell its layout first. -/
theorem Storable.operands_of_packed {left right : Instruction} (leftStorable : left.Storable)
    (rightStorable : right.Storable) (same : left.packed = right.packed) :
    left.operands = right.operands ∧ left.layout = right.layout := by
  rw [packed_eq, packed_eq] at same
  have leftOpcode := leftStorable.opcode
  have rightOpcode := rightStorable.opcode
  have leftA := leftStorable.a
  have rightA := rightStorable.a
  have opcode : left.opcode = right.opcode := by omega
  have a : left.a = right.a := by omega
  have upper : left.upperBits = right.upperBits := by omega
  have layout : left.layout = right.layout := by
    rw [leftStorable.layout, rightStorable.layout, opcode]
  have leftOperands := leftStorable.operands
  have rightOperands := rightStorable.operands
  have operands : left.b = right.b ∧ left.c = right.c := by
    simp only [upperBits] at upper
    cases found : right.layout with
    | abc =>
        simp only [layout, found, Layout.Admits] at upper leftOperands rightOperands
        omega
    | abx =>
        simp only [layout, found, Layout.Admits] at upper leftOperands rightOperands
        omega
    | asbx =>
        simp only [layout, found, Layout.Admits] at upper leftOperands rightOperands
        omega
  exact ⟨by simp only [Instruction.operands, opcode, a, operands], layout⟩

private theorem or_shiftLeft_eq_add {low shift : Nat} (below : low < 2 ^ shift) (high : Nat) :
    low ||| high <<< shift = low + high * 2 ^ shift := by
  rw [Nat.or_comm, ← Nat.shiftLeft_add_eq_or_of_lt below, Nat.shiftLeft_eq, Nat.add_comm]

/-- Fields in their ranges do not overlap, so joining their bits adds them up. -/
theorem Storable.storedWord_eq {instruction : Instruction} (storable : instruction.Storable) :
    (instruction.storedWord : Int) = instruction.packed := by
  obtain ⟨opcode, a, b, c, layout, raw⟩ := instruction
  obtain ⟨opcodeRange, aRange, -, operands⟩ := storable
  simp only at opcodeRange aRange operands
  have front : opcode.toNat ||| a.toNat <<< 6 = opcode.toNat + a.toNat * 2 ^ 6 :=
    or_shiftLeft_eq_add (by omega) _
  cases layout with
  | abc =>
      obtain ⟨bRange, cRange⟩ := operands
      have middle : opcode.toNat + a.toNat * 2 ^ 6 ||| c.toNat <<< 14 =
          opcode.toNat + a.toNat * 2 ^ 6 + c.toNat * 2 ^ 14 := or_shiftLeft_eq_add (by omega) _
      simp only [storedWord, packed, front, middle]
      rw [or_shiftLeft_eq_add (by omega)]
      omega
  | abx =>
      obtain ⟨bRange, -⟩ := operands
      simp only [storedWord, packed, front]
      rw [or_shiftLeft_eq_add (by omega)]
      omega
  | asbx =>
      obtain ⟨bRange, -⟩ := operands
      simp only [storedWord, packed, front, signedBias]
      rw [or_shiftLeft_eq_add (by omega)]
      omega

/-! ## Decoding -/

theorem storable_ofWord (word : Int) : (ofWord word).Storable := by
  have opcode := opcodeField.extract_eq word
  have a := aField.extract_eq word
  have b := bField.extract_eq word
  have c := cField.extract_eq word
  have bx := bxField.extract_eq word
  simp only [opcodeField, aField, bField, cField, bxField] at opcode a b c bx
  simp only [ofWord, opcodeField, aField, bField, cField, bxField, signedBias]
  cases layout : Layout.ofCode (BitField.extract ⟨0, 6⟩ word) with
  | abc => refine ⟨?_, ?_, layout.symm, ⟨?_, ?_⟩, ?_, ?_⟩ <;> simp only <;> omega
  | abx => refine ⟨?_, ?_, layout.symm, ⟨?_, ?_⟩, rfl⟩ <;> simp only <;> omega
  | asbx => refine ⟨?_, ?_, layout.symm, ⟨?_, ?_⟩, rfl⟩ <;> simp only <;> omega

/-- Only the low thirty-two bits of a word count. -/
theorem operands_ofWord_emod (word : Int) :
    (ofWord (word % 2 ^ 32)).operands = (ofWord word).operands := by
  have bits : (ofWord (word % 2 ^ 32)).packed = (ofWord word).packed := by
    rw [packed_ofWord, packed_ofWord, Int.emod_emod_of_dvd _ (Int.dvd_refl _)]
  exact ((storable_ofWord _).operands_of_packed (storable_ofWord _) bits).1

theorem Storable.ofWord_storedWord {instruction : Instruction} (storable : instruction.Storable) :
    ofWord instruction.storedWord = { instruction with raw := instruction.storedWord } := by
  have range := storable.packed_range
  have bits : (ofWord instruction.storedWord).packed = instruction.packed := by
    rw [packed_ofWord, storable.storedWord_eq, Int.emod_eq_of_lt range.1 range.2]
  obtain ⟨operands, layout⟩ := (storable_ofWord _).operands_of_packed storable bits
  have raw := raw_ofWord instruction.storedWord
  generalize ofWord instruction.storedWord = decoded at operands layout raw
  obtain ⟨opcode, a, b, c, _, _⟩ := decoded
  simp only [Instruction.operands, List.cons.injEq, and_true] at operands
  obtain ⟨rfl, rfl, rfl, rfl⟩ := operands
  simp only at layout raw
  rw [layout, raw]

/-- Instructions in the ranges of their fields and words of thirty-two bits correspond one to one.
Any other word, in a field of any width and byte order, is decoded by its low thirty-two bits. -/
theorem ofWord_bijective :
    (∀ word : Int,
      (ofWord word).raw = word ∧ (ofWord word).Storable ∧
      (ofWord word).operands = (ofWord (word % 2 ^ 32)).operands ∧
      ((ofWord word).storedWord : Int) = word % 2 ^ 32) ∧
    (∀ instruction : Instruction, instruction.Storable →
      instruction.storedWord < 2 ^ 32 ∧
      ofWord instruction.storedWord = { instruction with raw := instruction.storedWord }) ∧
    ∀ (order : ByteOrder) (bytes : Bytes), ∃ instruction,
      ofNamedOrder order.name bytes = .ok instruction ∧ instruction.Storable ∧
      instruction.storedWord = order.unsigned bytes % 2 ^ 32 := by
  have restored (word : Int) : ((ofWord word).storedWord : Int) = word % 2 ^ 32 := by
    rw [(storable_ofWord word).storedWord_eq, packed_ofWord]
  refine ⟨?_, ?_, ?_⟩
  · intro word
    exact ⟨raw_ofWord word, storable_ofWord word, (operands_ofWord_emod word).symm, restored word⟩
  · intro instruction storable
    have range := storable.packed_range
    rw [← storable.storedWord_eq] at range
    exact ⟨by exact_mod_cast range.2, storable.ofWord_storedWord⟩
  · intro order bytes
    have named : ofNamedOrder order.name bytes = .ok (ofBytes order bytes) := by
      cases order <;> rfl
    refine ⟨ofBytes order bytes, named, storable_ofWord _, ?_⟩
    have bits := restored (order.unsigned bytes)
    exact_mod_cast bits

/-- The longest jump backwards. -/
theorem ofWord_bijective_jump :
    Storable ⟨22, 0, -131071, 0, .asbx, 0⟩ ∧ storedWord ⟨22, 0, -131071, 0, .asbx, 0⟩ = 22 ∧
      ofWord 22 = ⟨22, 0, -131071, 0, .asbx, 22⟩ := by
  have storable : Storable ⟨22, 0, -131071, 0, .asbx, 0⟩ :=
    ⟨by decide, by decide, rfl, by decide, rfl⟩
  exact ⟨storable, rfl, (ofWord_bijective.2.1 _ storable).2⟩

end Instruction

end LuaBytecode
