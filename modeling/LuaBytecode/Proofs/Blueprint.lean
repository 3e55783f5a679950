import LuaBytecode.Proofs.DoubleExact
import LuaBytecode.Proofs.ParseTree

/-!
# Blueprints

The files that a compiler writes. A string is stored with a zero byte after it, and an absent one
as a length of zero; a boolean is stored as zero or one; a number is stored as the integer or the
floating-point pattern that the header calls for. A blueprint says what such a file is to hold, and
decoding the file that is written after it gives back all of that, whatever the header's widths and
byte order and whatever follows.
-/

set_option autoImplicit false

namespace LuaBytecode

/-! ## Strings -/

/-- Strings with a zero byte after them, counted in their length, or a length of zero for none. -/
def Header.texts (header : Header) : Format (Option Bytes) where
  encode
    | none => header.sizes.encode 0
    | some text => header.sizes.encode (text.length + 1) ++ text ++ [0]
  Fits
    | none => True
    | some text => header.sizes.Fits (text.length + 1) ∧ 0 ∉ text

theorem Bytes.beforeZero_append_zero {text : Bytes} (noZero : 0 ∉ text) :
    Bytes.beforeZero (text ++ [0]) = text := by
  have kept : ∀ byte ∈ text, (byte != 0) = true := by
    intro byte member
    rw [bne_iff_ne]
    rintro rfl
    exact noZero member
  rw [Bytes.beforeZero, List.takeWhile_append_of_pos kept]
  simp

def Bytes.terminated : Option Bytes → Bytes
  | none => []
  | some text => text ++ [0]

theorem Header.texts_terminated (header : Header) (text : Option Bytes)
    (fits : header.texts.Fits text) :
    header.rawStrings.Fits (Bytes.terminated text) ∧
      header.texts.encode text = header.rawStrings.encode (Bytes.terminated text) ∧
      Bytes.beforeZero (Bytes.terminated text) = text.getD [] := by
  cases text with
  | none => exact ⟨Bytes.capacity_pos _, (List.append_nil _).symm, rfl⟩
  | some text =>
      obtain ⟨lengthFits, noZero⟩ := fits
      have length : (text ++ [0]).length = text.length + 1 := List.length_append
      refine ⟨?_, ?_, Bytes.beforeZero_append_zero noZero⟩
      · show header.sizes.Fits (text ++ [0]).length
        rw [length]
        exact lengthFits
      · show _ = header.sizes.encode (text ++ [0]).length ++ (text ++ [0])
        rw [length]
        exact List.append_assoc _ _ _

/-! ## Numbers -/

namespace Number

variable (header : Header)

def encode : Number → Bytes
  | .integer value => header.order.signedField header.widths.number.toNat value
  | .double value =>
    header.order.field header.widths.number.toNat
      (if header.widths.number = 4 then value.toSingleBits else value.toBits)

/-- Integers in the range of two's complement under a header for integers; under any other header,
zero, infinity and the normal numbers of single precision in four bytes, or of double precision in
any other number of bytes that is enough for the pattern. -/
def Fits : Number → Prop
  | .integer value => header.integralNumbers = true ∧
      -(Bytes.capacity header.widths.number.toNat : Int) ≤ 2 * value ∧
      2 * value < (Bytes.capacity header.widths.number.toNat : Int)
  | .double value => header.integralNumbers = false ∧
      if header.widths.number = 4 then value.IsSimpleSingle
      else value.IsSimple ∧ value.toBits < Bytes.capacity header.widths.number.toNat

variable {header}

theorem length_encode (number : Number) :
    (number.encode header).length = header.widths.number.toNat := by
  cases number with
  | integer value => exact header.order.length_signedField _ _
  | double value => exact header.order.length_field _ _

theorem ofBytes_encode {number : Number} (fits : number.Fits header) :
    ofBytes header (number.encode header) = number := by
  cases number with
  | integer value =>
      obtain ⟨integral, above, below⟩ := fits
      rw [ofBytes, if_pos integral]
      exact congrArg integer (header.order.signed_signedField above below)
  | double value =>
      obtain ⟨floating, fits⟩ := fits
      rw [ofBytes, if_neg (by simp [floating])]
      by_cases single : header.widths.number = 4
      · rw [if_pos single] at fits
        have patternFits : value.toSingleBits < Bytes.capacity header.widths.number.toNat := by
          rw [single]
          exact value.toSingleBits_lt
        have stored :
            header.order.unsigned (encode header (.double value)) = value.toSingleBits := by
          rw [encode, if_pos single, header.order.unsigned_field patternFits]
        simp [stored, single, Double.ofSinglePattern_toSingleBits fits]
      · rw [if_neg single] at fits
        obtain ⟨simple, patternFits⟩ := fits
        have stored : header.order.unsigned (encode header (.double value)) = value.toBits := by
          rw [encode, if_neg single, header.order.unsigned_field patternFits]
        have low : value.toBits % 0x10000000000000000 = value.toBits :=
          Nat.mod_eq_of_lt value.toBits_lt
        simp only [stored, low, if_neg single, Double.ofWord_natCast,
          Double.ofPattern_toBits simple, ite_self]

end Number

/-! ## Constants -/

inductive Literal where
  | nil
  | boolean (value : Bool)
  | number (value : Number)
  | string (text : Option Bytes)
  deriving DecidableEq, Repr

namespace Literal

def encode (header : Header) : Literal → Bytes
  | .nil => [0]
  | .boolean value => [1, if value then 1 else 0]
  | .number value => 3 :: value.encode header
  | .string text => 4 :: header.texts.encode text

def Fits (header : Header) : Literal → Prop
  | .nil => True
  | .boolean _ => True
  | .number value => value.Fits header
  | .string text => header.texts.Fits text

/-- An absent string is read as an empty one. -/
def meaning : Literal → Constant
  | .nil => .nil
  | .boolean value => .boolean value
  | .number value => .number value
  | .string text => .string (text.getD [])

def storage (header : Header) : Format Literal where
  encode := encode header
  Fits := Fits header

end Literal

def Literal.raw (header : Header) : Literal → RawConstant
  | .nil => .nil
  | .boolean value => .boolean (if value then 1 else 0)
  | .number value => .number (value.encode header)
  | .string text => .string (Bytes.terminated text)

theorem Literal.storage_raw (header : Header) (literal : Literal)
    (fits : (storage header).Fits literal) :
    (RawConstant.storage header).Fits (literal.raw header) ∧
      (storage header).encode literal = (RawConstant.storage header).encode (literal.raw header) ∧
      (literal.raw header).meaning header = literal.meaning := by
  cases literal with
  | nil => exact ⟨trivial, rfl, rfl⟩
  | boolean value => cases value <;> exact ⟨trivial, rfl, rfl⟩
  | number value =>
      exact ⟨value.length_encode, rfl, congrArg Constant.number (Number.ofBytes_encode fits)⟩
  | string text =>
      obtain ⟨rawFits, sameBytes, sameText⟩ := header.texts_terminated text fits
      exact ⟨rawFits, congrArg (4 :: ·) sameBytes, congrArg Constant.string sameText⟩

/-! ## Files -/

def Vocabulary.written (header : Header) : Vocabulary (Option Bytes) Literal where
  strings := header.texts
  constants := Literal.storage header
  text := fun text => text.getD []
  constant := Literal.meaning

/-- What a compiler is to write of a function. -/
abbrev Blueprint : Type :=
  StoredFunction (Option Bytes) Literal

theorem Vocabulary.written_decoded {header : Header} (valid : header.Valid) :
    (Vocabulary.written header).Decoded header :=
  ⟨(Header.stringField_decodes valid).part Bytes.terminated header.texts_terminated,
    (Constant.read_decodes_raw valid).part (Literal.raw header) (Literal.storage_raw header)⟩

/-- Whatever is written after a blueprint that fits the header is read back, field by field, and
neither the header's widths nor the bytes that follow make a difference to it. -/
theorem decode_blueprint {header : Header} (valid : header.Valid) {blueprint : Blueprint}
    (fits : blueprint.Fits header (.written header)) (low : blueprint.height ≤ nestingLimit)
    (suffix : Bytes) (options : Options) :
    (decode (blueprint.encodeFile header (.written header) ++ suffix) options).result = .ok {
      header, options
      tree := blueprint.meaning (.written header) options
      consumed := (blueprint.encodeFile header (.written header)).length
      trailing := suffix.length } :=
  decode_encodeFile valid (Vocabulary.written_decoded valid) fits low suffix options

def sampleHeader : Header := ⟨0x51, 0, 0, ⟨2, 1, 3, 9⟩, 0⟩

/-- Three, with a negative sign. -/
def sampleNumber : Double := .ofBits 0xc008000000000000

/-- A function with a constant of each kind and a function without a name in it. -/
def sampleBlueprint : Blueprint where
  body := {
    source := some [0x40, 0x61], lineDefined := 0, lastLineDefined := 300
    upvalueCount := 0, paramCount := 0, vararg := 2, maxStackSize := 2
    words := [0x1e, 0x80001e]
    constants := [.nil, .boolean true, .number (.double sampleNumber), .string (some [0x68, 0x69]),
      .string none]
    linePositions := [1, 300]
    locals := [⟨some [0x78], 0, 1⟩]
    upvalues := [] }
  functions := [⟨{
    source := none, lineDefined := 1, lastLineDefined := 2
    upvalueCount := 1, paramCount := 0, vararg := 0, maxStackSize := 2
    words := [], constants := []
    linePositions := [], locals := [], upvalues := [some [0x78]] }, []⟩]

theorem sampleBlueprint_fits :
    sampleBlueprint.Fits sampleHeader (.written sampleHeader) := by
  have number : Number.Fits sampleHeader (.double sampleNumber) := by
    refine ⟨rfl, ?_⟩
    rw [if_neg (by decide)]
    exact ⟨.inr (.inr ⟨by decide, by decide⟩), by decide⟩
  refine .intro ?outer (by show 1 < 65536; decide) ?nested
  case outer =>
    constructor
    all_goals simp [Vocabulary.written, Vocabulary.locals, Header.texts, Header.lists,
      Header.sizes, Header.integers, Header.words, Format.counted, Format.integer,
      Literal.storage, Literal.Fits, number]
    all_goals decide
  case nested =>
    intro function member
    obtain rfl := List.mem_singleton.mp member
    refine .intro ?inner (Bytes.capacity_pos _) (by simp)
    constructor
    all_goals simp [Vocabulary.written, Header.texts, Header.lists, Header.sizes,
      Header.integers, Format.counted, Format.integer]
    all_goals decide

theorem decode_blueprint_sampleBlueprint :
    sampleHeader.Valid ∧ sampleBlueprint.height = 1 ∧
      (decode (sampleBlueprint.encodeFile sampleHeader (.written sampleHeader) ++ [7]) {}).result =
        .ok {
          header := sampleHeader, options := {}
          tree := sampleBlueprint.meaning (.written sampleHeader) {}
          consumed := 97, trailing := 1 } := by
  have valid : sampleHeader.Valid := by
    constructor <;> decide
  exact ⟨valid, rfl, decode_blueprint valid sampleBlueprint_fits (by decide) [7] {}⟩

end LuaBytecode
