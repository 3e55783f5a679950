import LuaBytecode.Header.Reader
import LuaBytecode.Proofs.Format

/-!
# The header and the fields it governs

A header is stored in twelve bytes, and reading accepts exactly the stored headers: those with a
byte in every field, one of the two byte orders, and no width of zero. Under such a header integers,
sizes, strings and counted lists have the formats defined here, and the readers of these fields
decode them and accept nothing else.
-/

set_option autoImplicit false

namespace LuaBytecode

/-! ## Headers -/

/-- The byte that stores a small integer. -/
def byteOf (value : Int) : UInt8 :=
  UInt8.ofNat value.toNat

theorem toNat_byteOf {value : Int} (nonneg : 0 ≤ value) (below : value < 256) :
    ((byteOf value).toNat : Int) = value := by
  rw [byteOf, UInt8.toNat_ofNat']
  omega

@[simp] theorem byteOf_toNat (byte : UInt8) : byteOf byte.toNat = byte :=
  UInt8.ofNat_toNat

theorem Widths.firstZero?_eq_none {widths : Widths} :
    widths.firstZero? = none ↔
      widths.int ≠ 0 ∧ widths.sizeT ≠ 0 ∧ widths.instruction ≠ 0 ∧ widths.number ≠ 0 := by
  unfold Widths.firstZero?
  repeat' split
  all_goals simp_all

namespace Header

open Reader (takes_bind takes_pure takes_offset takes_require takes_note takes_noteIf takes_fail
  takes_byte_bind takes_bytes)

/-- What a file can say in its header and still be decoded. -/
structure Valid (header : Header) : Prop where
  version : 0 ≤ header.version ∧ header.version < 256
  format : 0 ≤ header.format ∧ header.format < 256
  endianness : header.endianness = 0 ∨ header.endianness = 1
  int : 1 ≤ header.widths.int ∧ header.widths.int ≤ 255
  sizeT : 1 ≤ header.widths.sizeT ∧ header.widths.sizeT ≤ 255
  instruction : 1 ≤ header.widths.instruction ∧ header.widths.instruction ≤ 255
  number : 1 ≤ header.widths.number ∧ header.widths.number ≤ 255
  integral : 0 ≤ header.integral ∧ header.integral < 256

def encode (header : Header) : Bytes :=
  signature ++ [byteOf header.version, byteOf header.format, byteOf header.endianness,
    byteOf header.widths.int, byteOf header.widths.sizeT, byteOf header.widths.instruction,
    byteOf header.widths.number, byteOf header.integral]

@[simp] theorem length_encode (header : Header) : header.encode.length = size := rfl

def storage : Format Header where
  encode := encode
  Fits := Valid

variable {header : Header}

theorem Valid.firstZero?_eq_none (valid : header.Valid) : header.widths.firstZero? = none := by
  have int := valid.int
  have sizeT := valid.sizeT
  have instruction := valid.instruction
  have number := valid.number
  exact Widths.firstZero?_eq_none.mpr ⟨by omega, by omega, by omega, by omega⟩

private theorem flag_accepted (valid : header.Valid) :
    (byteOf header.endianness == 0 || byteOf header.endianness == 1) = true := by
  rcases valid.endianness with big | little
  · rw [big]; rfl
  · rw [little]; rfl

private theorem widths_restored (valid : header.Valid) :
    (⟨(byteOf header.widths.int).toNat, (byteOf header.widths.sizeT).toNat,
      (byteOf header.widths.instruction).toNat, (byteOf header.widths.number).toNat⟩ : Widths) =
      header.widths := by
  have int := valid.int
  have sizeT := valid.sizeT
  have instruction := valid.instruction
  have number := valid.number
  rw [toNat_byteOf, toNat_byteOf, toNat_byteOf, toNat_byteOf] <;> omega

private theorem header_restored (valid : header.Valid) :
    (⟨(byteOf header.version).toNat, (byteOf header.format).toNat,
      (byteOf header.endianness).toNat, header.widths, (byteOf header.integral).toNat⟩ : Header) =
      header := by
  have version := valid.version
  have format := valid.format
  have endianness := valid.endianness
  have integral := valid.integral
  rw [toNat_byteOf, toNat_byteOf, toNat_byteOf, toNat_byteOf] <;> omega

theorem read_decodes : read.Decodes storage id := by
  intro header buffer start valid held
  simp only [storage, encode, Buffer.holds_append, Buffer.holds_cons] at held
  obtain ⟨signed, version, format, endianness, int, sizeT, instruction, number, integral, -⟩ := held
  unfold read
  refine takes_bind.mpr ⟨_, _, takes_offset.mpr ⟨rfl, rfl⟩, ?_⟩
  refine takes_bind.mpr ⟨_, _, (takes_bytes (by decide)).mpr ⟨signed, rfl, rfl⟩, ?_⟩
  refine takes_bind.mpr ⟨(), _, takes_require.mpr ⟨rfl, rfl⟩, ?_⟩
  refine takes_byte_bind.mpr ⟨_, version, ?_⟩
  refine takes_byte_bind.mpr ⟨_, format, ?_⟩
  refine takes_byte_bind.mpr ⟨_, endianness, ?_⟩
  refine takes_bind.mpr ⟨(), _, takes_require.mpr ⟨flag_accepted valid, rfl⟩, ?_⟩
  refine takes_byte_bind.mpr ⟨_, int, ?_⟩
  refine takes_byte_bind.mpr ⟨_, sizeT, ?_⟩
  refine takes_byte_bind.mpr ⟨_, instruction, ?_⟩
  refine takes_byte_bind.mpr ⟨_, number, ?_⟩
  simp only [widths_restored valid, valid.firstZero?_eq_none]
  refine takes_byte_bind.mpr ⟨_, integral, ?_⟩
  simp only [header_restored valid]
  refine takes_bind.mpr ⟨(), _, takes_noteIf.mpr rfl, ?_⟩
  refine takes_bind.mpr ⟨(), _, takes_note.mpr rfl, ?_⟩
  exact takes_pure.mpr ⟨rfl, rfl⟩

theorem read_acceptsOnly : read.AcceptsOnly storage id := by
  intro header buffer start stop taken
  unfold read at taken
  obtain ⟨_, _, cursor, taken⟩ := takes_bind.mp taken
  obtain ⟨rfl, rfl⟩ := takes_offset.mp cursor
  obtain ⟨found, _, signatureTaken, taken⟩ := takes_bind.mp taken
  obtain ⟨signed, -, rfl⟩ := (takes_bytes (by decide)).mp signatureTaken
  obtain ⟨_, _, required, taken⟩ := takes_bind.mp taken
  obtain ⟨isSignature, rfl⟩ := takes_require.mp required
  obtain ⟨version, versionHeld, taken⟩ := takes_byte_bind.mp taken
  obtain ⟨format, formatHeld, taken⟩ := takes_byte_bind.mp taken
  obtain ⟨endianness, endiannessHeld, taken⟩ := takes_byte_bind.mp taken
  obtain ⟨_, _, required, taken⟩ := takes_bind.mp taken
  obtain ⟨flag, rfl⟩ := takes_require.mp required
  obtain ⟨int, intHeld, taken⟩ := takes_byte_bind.mp taken
  obtain ⟨sizeT, sizeTHeld, taken⟩ := takes_byte_bind.mp taken
  obtain ⟨instruction, instructionHeld, taken⟩ := takes_byte_bind.mp taken
  obtain ⟨number, numberHeld, taken⟩ := takes_byte_bind.mp taken
  dsimp only at taken
  split at taken
  · exact absurd taken takes_fail
  · rename_i noZero
    obtain ⟨integral, integralHeld, taken⟩ := takes_byte_bind.mp taken
    obtain ⟨_, _, noted, taken⟩ := takes_bind.mp taken
    obtain rfl := takes_noteIf.mp noted
    obtain ⟨_, _, noted, taken⟩ := takes_bind.mp taken
    obtain rfl := takes_note.mp noted
    obtain ⟨rfl, rfl⟩ := takes_pure.mp taken
    obtain ⟨intPos, sizeTPos, instructionPos, numberPos⟩ := Widths.firstZero?_eq_none.mp noZero
    dsimp only at intPos sizeTPos instructionPos numberPos
    obtain rfl : found = signature := eq_of_beq isSignature
    refine ⟨_, ?valid, ?held, rfl, rfl⟩
    case valid =>
      have := version.toNat_lt
      have := format.toNat_lt
      have := int.toNat_lt
      have := sizeT.toNat_lt
      have := instruction.toNat_lt
      have := number.toNat_lt
      have := integral.toNat_lt
      have flagValue : endianness = 0 ∨ endianness = 1 := by simpa using flag
      constructor <;> dsimp only
      case endianness =>
        rcases flagValue with rfl | rfl
        · exact .inl rfl
        · exact .inr rfl
      all_goals omega
    case held =>
      simp only [storage, encode, byteOf_toNat, Buffer.holds_append, Buffer.holds_cons]
      exact ⟨signed, versionHeld, formatHeld, endiannessHeld, intHeld, sizeTHeld, instructionHeld,
        numberHeld, integralHeld, Buffer.holds_nil⟩

/-! ## Governed fields -/

/-- Counts, line numbers and program counters. -/
def integers (header : Header) : Format Nat :=
  .integer header.order header.widths.int.toNat

def sizes (header : Header) : Format Nat :=
  .integer header.order header.widths.sizeT.toNat

def words (header : Header) : Format Nat :=
  .integer header.order header.widths.instruction.toNat

/-- A length and as many bytes. -/
def rawStrings (header : Header) : Format Bytes where
  encode raw := header.sizes.encode raw.length ++ raw
  Fits raw := header.sizes.Fits raw.length

def lists {τ : Type} (header : Header) (item : Format τ) : Format (List τ) :=
  .counted header.integers item

variable {α τ : Type}

theorem rawStrings_unambiguous (header : Header) : header.rawStrings.Unambiguous := by
  intro left right after after' leftFits rightFits same
  simp only [rawStrings, List.append_assoc] at same
  obtain ⟨sameLength, sameRaw⟩ := Format.integer_unambiguous _ _ leftFits rightFits same
  exact List.append_inj sameRaw sameLength

theorem lists_unambiguous {item : Format τ} (unambiguous : item.Unambiguous) :
    (header.lists item).Unambiguous :=
  Format.counted_unambiguous (Format.integer_unambiguous _ _) unambiguous

theorem integerField_decodes (valid : header.Valid) :
    header.integerField.Decodes header.integers id :=
  Reader.unsigned_decodes header.order valid.int.1

theorem integerField_acceptsOnly (valid : header.Valid) :
    header.integerField.AcceptsOnly header.integers id :=
  Reader.unsigned_acceptsOnly header.order valid.int.1

/-- A string field gives what stands before the first zero byte of the raw string. -/
theorem stringField_decodes (valid : header.Valid) :
    header.stringField.Decodes header.rawStrings Bytes.beforeZero := by
  intro raw buffer start fits held
  obtain ⟨lengthHeld, rawHeld⟩ := Buffer.holds_append.mp held
  have lengthDecodes : header.sizeField.Decodes header.sizes id :=
    Reader.unsigned_decodes header.order valid.sizeT.1
  refine lengthDecodes.followed fits lengthHeld ?_
  simp only [rawStrings, List.length_append, ← Nat.add_assoc, id]
  by_cases absent : raw.length = 0
  · obtain rfl := List.length_eq_zero_iff.mp absent
    exact takes_pure.mpr ⟨rfl, rfl⟩
  · rw [if_neg absent]
    refine takes_bind.mpr ⟨raw, _, (takes_bytes (by omega)).mpr ⟨rawHeld, rfl, rfl⟩, ?_⟩
    exact takes_pure.mpr ⟨rfl, rfl⟩

theorem stringField_acceptsOnly (valid : header.Valid) :
    header.stringField.AcceptsOnly header.rawStrings Bytes.beforeZero := by
  intro result buffer start stop taken
  have lengthAccepts : header.sizeField.AcceptsOnly header.sizes id :=
    Reader.unsigned_acceptsOnly header.order valid.sizeT.1
  obtain ⟨length, fits, lengthHeld, taken⟩ := lengthAccepts.followed taken
  by_cases absent : length = 0
  · subst absent
    obtain ⟨rfl, rfl⟩ := takes_pure.mp taken
    have held := Buffer.holds_append.mpr ⟨lengthHeld, Buffer.holds_nil⟩
    exact ⟨[], fits, held, by simp [rawStrings], rfl⟩
  · simp only [id, if_neg absent] at taken
    obtain ⟨raw, _, rawTaken, taken⟩ := takes_bind.mp taken
    obtain ⟨rawHeld, rfl, rfl⟩ := (takes_bytes (by omega)).mp rawTaken
    obtain ⟨rfl, rfl⟩ := takes_pure.mp taken
    refine ⟨raw, fits, Buffer.holds_append.mpr ⟨lengthHeld, rawHeld⟩, ?_, rfl⟩
    simp only [rawStrings, List.length_append, ← Nat.add_assoc]

theorem counted_decodes {item : Reader α} {format : Format τ} {meaning : τ → α}
    (valid : header.Valid) (decodes : item.Decodes format meaning) :
    (header.counted item).Decodes (header.lists format) (List.map meaning) :=
  (integerField_decodes valid).counted decodes

theorem counted_acceptsOnly {item : Reader α} {format : Format τ} {meaning : τ → α}
    (valid : header.Valid) (accepts : item.AcceptsOnly format meaning) :
    (header.counted item).AcceptsOnly (header.lists format) (List.map meaning) :=
  (integerField_acceptsOnly valid).counted accepts

end Header

end LuaBytecode
