import LuaBytecode.Proofs.StoredFile

/-!
# Parse trees

The concrete syntax of files, with nothing decided that the bytes leave open: strings are runs of
bytes of a stated length, booleans are bytes, numbers are the raw bytes of their field. Every file
that can be decoded has exactly one parse tree, and what decoding gives is the meaning of that tree.
-/

set_option autoImplicit false

namespace LuaBytecode

open Reader (takes_bind takes_pure takes_offset takes_fail takes_byte_bind takes_bytes)

/-- A constant by its tag and the bytes after the tag. -/
inductive RawConstant where
  | nil
  | boolean (byte : UInt8)
  | number (raw : Bytes)
  | string (raw : Bytes)
  deriving DecidableEq, Repr

namespace RawConstant

def tag : RawConstant → UInt8
  | .nil => 0
  | .boolean _ => 1
  | .number _ => 3
  | .string _ => 4

def payload (header : Header) : RawConstant → Bytes
  | .nil => []
  | .boolean byte => [byte]
  | .number raw => raw
  | .string raw => header.rawStrings.encode raw

/-- A number has as many bytes as the header says, and the length of a string can be stored. -/
def Fits (header : Header) : RawConstant → Prop
  | .nil => True
  | .boolean _ => True
  | .number raw => raw.length = header.widths.number.toNat
  | .string raw => header.rawStrings.Fits raw

def meaning (header : Header) : RawConstant → Constant
  | .nil => .nil
  | .boolean byte => .boolean (byte != 0)
  | .number raw => .number (Number.ofBytes header raw)
  | .string raw => .string (Bytes.beforeZero raw)

def storage (header : Header) : Format RawConstant where
  encode constant := constant.tag :: constant.payload header
  Fits := Fits header

theorem storage_unambiguous (header : Header) : (storage header).Unambiguous := by
  intro left right after after' leftFits rightFits same
  obtain ⟨sameTag, samePayload⟩ := List.cons.inj same
  cases left <;> cases right <;> try cases sameTag
  case nil.nil => exact ⟨rfl, samePayload⟩
  case boolean.boolean =>
    obtain ⟨sameByte, sameAfter⟩ := List.cons.inj samePayload
    exact ⟨congrArg _ sameByte, sameAfter⟩
  case number.number =>
    obtain ⟨sameRaw, sameAfter⟩ := List.append_inj samePayload (leftFits.trans rightFits.symm)
    exact ⟨congrArg _ sameRaw, sameAfter⟩
  case string.string =>
    obtain ⟨sameRaw, sameAfter⟩ := header.rawStrings_unambiguous leftFits rightFits samePayload
    exact ⟨congrArg _ sameRaw, sameAfter⟩

end RawConstant

theorem Number.takes_read {header : Header} (valid : header.Valid) {buffer : Buffer}
    {start stop : Nat} {value : Number} :
    (Number.read header).Takes buffer start value stop ↔
      ∃ raw : Bytes, raw.length = header.widths.number.toNat ∧ buffer.Holds start raw ∧
        stop = start + raw.length ∧ Number.ofBytes header raw = value := by
  have positive := valid.number.1
  rw [Number.read, Reader.field_of_nonneg (by omega), takes_bind]
  constructor
  · rintro ⟨raw, _, rawTaken, taken⟩
    obtain ⟨held, length, rfl⟩ := (takes_bytes (by omega)).mp rawTaken
    obtain ⟨rfl, rfl⟩ := takes_pure.mp taken
    exact ⟨raw, length, held, congrArg _ length.symm, rfl⟩
  · rintro ⟨raw, length, held, rfl, rfl⟩
    refine ⟨raw, _, (takes_bytes (by omega)).mpr ⟨held, length, congrArg _ length⟩, ?_⟩
    exact takes_pure.mpr ⟨rfl, rfl⟩

theorem Constant.read_decodes_raw {header : Header} (valid : header.Valid) :
    (Constant.read header).Decodes (RawConstant.storage header) (RawConstant.meaning header) := by
  intro constant buffer start fits held
  refine takes_bind.mpr ⟨_, _, takes_offset.mpr ⟨rfl, rfl⟩, ?_⟩
  cases constant with
  | nil =>
      obtain ⟨tag, -⟩ := Buffer.holds_cons.mp held
      refine takes_byte_bind.mpr ⟨0, tag, ?_⟩
      exact takes_pure.mpr ⟨rfl, rfl⟩
  | boolean byte =>
      obtain ⟨tag, held⟩ := Buffer.holds_cons.mp held
      obtain ⟨stored, -⟩ := Buffer.holds_cons.mp held
      refine takes_byte_bind.mpr ⟨1, tag, ?_⟩
      refine takes_byte_bind.mpr ⟨byte, stored, ?_⟩
      exact takes_pure.mpr ⟨rfl, rfl⟩
  | number raw =>
      obtain ⟨tag, held⟩ := Buffer.holds_cons.mp held
      refine takes_byte_bind.mpr ⟨3, tag, ?_⟩
      refine takes_bind.mpr ⟨_, _, (Number.takes_read valid).mpr ⟨raw, fits, held, rfl, rfl⟩, ?_⟩
      refine takes_pure.mpr ⟨rfl, ?_⟩
      rw [Nat.add_right_comm]
      rfl
  | string raw =>
      obtain ⟨tag, held⟩ := Buffer.holds_cons.mp held
      refine takes_byte_bind.mpr ⟨4, tag, ?_⟩
      refine (Header.stringField_decodes valid).followed fits held ?_
      refine takes_pure.mpr ⟨rfl, ?_⟩
      rw [Nat.add_right_comm]
      rfl

theorem Constant.read_acceptsOnly_raw {header : Header} (valid : header.Valid) :
    (Constant.read header).AcceptsOnly (RawConstant.storage header)
      (RawConstant.meaning header) := by
  intro result buffer start stop taken
  obtain ⟨_, _, cursor, taken⟩ := takes_bind.mp taken
  obtain ⟨rfl, rfl⟩ := takes_offset.mp cursor
  obtain ⟨tag, tagHeld, taken⟩ := takes_byte_bind.mp taken
  split at taken
  · rename_i isNil
    subst isNil
    obtain ⟨rfl, rfl⟩ := takes_pure.mp taken
    exact ⟨.nil, trivial, Buffer.holds_cons.mpr ⟨tagHeld, Buffer.holds_nil⟩, rfl, rfl⟩
  split at taken
  · rename_i _ isBoolean
    subst isBoolean
    obtain ⟨byte, byteHeld, taken⟩ := takes_byte_bind.mp taken
    obtain ⟨rfl, rfl⟩ := takes_pure.mp taken
    have held := Buffer.holds_cons.mpr ⟨byteHeld, Buffer.holds_nil⟩
    exact ⟨.boolean byte, trivial, Buffer.holds_cons.mpr ⟨tagHeld, held⟩, rfl, rfl⟩
  split at taken
  · rename_i _ _ isNumber
    subst isNumber
    obtain ⟨_, _, numberTaken, taken⟩ := takes_bind.mp taken
    obtain ⟨raw, fits, held, rfl, rfl⟩ := (Number.takes_read valid).mp numberTaken
    obtain ⟨rfl, rfl⟩ := takes_pure.mp taken
    refine ⟨.number raw, fits, Buffer.holds_cons.mpr ⟨tagHeld, held⟩, ?_, rfl⟩
    rw [Nat.add_right_comm]
    rfl
  split at taken
  · rename_i _ _ _ isString
    subst isString
    obtain ⟨raw, fits, held, taken⟩ := (Header.stringField_acceptsOnly valid).followed taken
    obtain ⟨rfl, rfl⟩ := takes_pure.mp taken
    refine ⟨.string raw, fits, Buffer.holds_cons.mpr ⟨tagHeld, held⟩, ?_, rfl⟩
    rw [Nat.add_right_comm]
    rfl
  · exact absurd taken takes_fail

/-! ## Files -/

def Vocabulary.raw (header : Header) : Vocabulary Bytes RawConstant where
  strings := header.rawStrings
  constants := RawConstant.storage header
  text := Bytes.beforeZero
  constant := RawConstant.meaning header

/-- The concrete syntax of a function. -/
abbrev ParseTree : Type :=
  StoredFunction Bytes RawConstant

theorem Vocabulary.raw_exhaustive (header : Header) (valid : header.Valid) :
    (Vocabulary.raw header).Exhaustive header :=
  ⟨Header.stringField_acceptsOnly valid, Constant.read_acceptsOnly_raw valid⟩

theorem Vocabulary.raw_unambiguous (header : Header) : (Vocabulary.raw header).Unambiguous :=
  ⟨header.rawStrings_unambiguous, RawConstant.storage_unambiguous header⟩

mutual

/-- Every function of a decoded tree comes from a stored body. -/
theorem StoredFunction.mem_walk_meaning {σ κ : Type} (vocabulary : Vocabulary σ κ)
    (options : Options) : ∀ (root : StoredFunction σ κ),
    ∀ function ∈ (root.meaning vocabulary options).walk,
      ∃ body : StoredBody σ κ, function.body = body.meaning vocabulary options
  | ⟨body, functions⟩, function, member => by
      rw [meaning, Prototype.walk, List.mem_cons] at member
      rcases member with rfl | below
      · exact ⟨body, rfl⟩
      · exact mem_walkAll_meaningAll vocabulary options functions function below

theorem StoredFunction.mem_walkAll_meaningAll {σ κ : Type} (vocabulary : Vocabulary σ κ)
    (options : Options) : ∀ (functions : List (StoredFunction σ κ)),
    ∀ function ∈ Prototype.walkAll (meaningAll vocabulary options functions),
      ∃ body : StoredBody σ κ, function.body = body.meaning vocabulary options
  | [], function, member => by
      rw [meaningAll, Prototype.walkAll] at member
      cases member
  | first :: rest, function, member => by
      rw [meaningAll, Prototype.walkAll, List.mem_append] at member
      rcases member with inFirst | inRest
      · exact mem_walk_meaning vocabulary options first function inFirst
      · exact mem_walkAll_meaningAll vocabulary options rest function inRest

end

/-- A file that is decoded begins with its header, and has exactly one parse tree after it, of which
the result is the meaning. Every byte belongs to the header, the tree or the counted rest. -/
theorem decode_unique_parse {data : Bytes} {options : Options} {file : DecodedFile}
    (succeeded : (decode data options).result = .ok file) :
    data.take Header.size = file.header.encode ∧
      file.consumed + file.trailing = data.length ∧
      ∃ tree : ParseTree,
        tree.height ≤ nestingLimit ∧ tree.Fits file.header (.raw file.header) ∧
        (data.take file.consumed).drop Header.size = tree.encode file.header (.raw file.header) ∧
        file.tree = tree.meaning (.raw file.header) options ∧
        (∀ function ∈ file.tree.walk,
          function.body.linePositions.isNone = options.stripDebugging ∧
          function.body.locals.isNone = options.stripDebugging ∧
          function.body.upvalues.isNone = options.stripDebugging) ∧
        ∀ other : ParseTree, other.Fits file.header (.raw file.header) →
          (data.take file.consumed).drop Header.size =
            other.encode file.header (.raw file.header) → other = tree := by
  obtain ⟨tree, rest, fits, low, contents, consumed, trailing, meaning⟩ :=
    encodeFile_of_decode Vocabulary.raw_exhaustive succeeded
  have segment : (data.take file.consumed).drop Header.size =
      tree.encode file.header (.raw file.header) := by
    rw [contents, consumed, List.take_left]
    exact List.drop_left' file.header.length_encode
  refine ⟨?_, ?_, tree, low, fits, segment, meaning, ?_, ?_⟩
  · rw [contents, StoredFunction.encodeFile, List.append_assoc]
    exact List.take_left' file.header.length_encode
  · rw [contents, List.length_append, consumed, trailing]
  · intro function member
    rw [meaning] at member
    obtain ⟨body, stored⟩ := StoredFunction.mem_walk_meaning _ options tree function member
    rw [stored]
    cases stripped : options.stripDebugging <;> simp [StoredBody.meaning, stripped]
  · intro other otherFits sameBytes
    -- Both trees have fewer levels than the higher of the two allows, so one format holds both.
    let levels := max other.height tree.height + 1
    have unambiguous := StoredFunction.within_unambiguous
      (Vocabulary.raw_unambiguous file.header) file.header levels
    have same : other.encode file.header (.raw file.header) ++ [] =
        tree.encode file.header (.raw file.header) ++ [] := by
      rw [← sameBytes, segment]
    exact (unambiguous ⟨otherFits, by omega⟩ ⟨fits, by omega⟩ same).1

/-- A file with a string that holds a zero byte in its midst and one that holds none, a boolean
stored as seven, a nested function and a byte after its end. -/
def unusualFile : Bytes :=
  [0x1b, 0x4c, 0x75, 0x61, 0x51, 0, 1, 1, 1, 1, 2, 1,
    3, 0x61, 0, 0x62, 1, 2, 0, 0, 2, 2,
    1, 0x1e,
    4, 0, 1, 7, 3, 0xfe, 0xff, 4, 2, 0x68, 0x69,
    1, 0, 0, 0, 0, 0, 0, 0, 0, 0, 0, 0, 0, 0,
    1, 5,
    1, 1, 0x78, 0, 1,
    0,
    0xaa]

theorem decode_unusualFile :
    ∃ file, (decode unusualFile {}).result = .ok file ∧ file.consumed = 57 := by
  have consumed : (decode unusualFile {}).result.toOption.map DecodedFile.consumed = some 57 := by
    decide +kernel
  cases outcome : (decode unusualFile {}).result with
  | error fault => simp [outcome, Except.toOption] at consumed
  | ok file =>
      simp only [outcome, Except.toOption, Option.map_some, Option.some.injEq] at consumed
      exact ⟨file, rfl, consumed⟩

theorem decode_unique_parse_unusualFile :
    ∃ file, (decode unusualFile {}).result = .ok file ∧ file.consumed = 57 ∧
      ∃ tree : ParseTree, tree.Fits file.header (.raw file.header) ∧
        (unusualFile.take file.consumed).drop Header.size =
          tree.encode file.header (.raw file.header) ∧
        file.tree = tree.meaning (.raw file.header) {} := by
  obtain ⟨file, succeeded, consumed⟩ := decode_unusualFile
  obtain ⟨-, -, tree, -, fits, segment, meaning, -⟩ := decode_unique_parse succeeded
  exact ⟨file, succeeded, consumed, tree, fits, segment, meaning⟩

end LuaBytecode
