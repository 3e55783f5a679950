import LuaBytecode.Proofs.DecodeFailure

/-!
# The first defect of a header

Reading a header checks it while it goes on, so that of several defects the first one met decides, a
missing byte included. Here the outcome is told from the bytes alone, without following the reader:
by how many of them there are, and by those that stand in the checked places.
-/

set_option autoImplicit false

namespace LuaBytecode

/-! ## Bytes that remain -/

/-- The bytes from the cursor to the end of the data. -/
def Buffer.Remains (buffer : Buffer) (start : Nat) (rest : Bytes) : Prop :=
  start + rest.length = buffer.size ∧ buffer.toList.drop start = rest

namespace Buffer.Remains

variable {β : Type} {buffer : Buffer} {start : Nat} {rest : Bytes}

theorem ofDrop (inside : start ≤ buffer.size) :
    buffer.Remains start (buffer.toList.drop start) := by
  refine ⟨?_, rfl⟩
  rw [List.length_drop, Array.length_toList]
  omega

theorem getElem?_eq_some (remains : buffer.Remains start rest) {index : Nat}
    (present : index < rest.length) : buffer[start + index]? = some (rest.getD index 0) := by
  rw [← Array.getElem?_toList, ← List.getElem?_drop, remains.2, List.getD_eq_getElem?_getD,
    List.getElem?_eq_getElem present, Option.getD_some]

theorem byte_bind (remains : buffer.Remains start rest) (index : Nat)
    (present : index < rest.length) (next : UInt8 → Reader β) :
    (Reader.byte >>= next) buffer (start + index) =
      next (rest.getD index 0) buffer (start + (index + 1)) := by
  have read : Reader.byte buffer (start + index) =
      ⟨.ok (rest.getD index 0), start + (index + 1), []⟩ := by
    rw [Reader.byte, remains.getElem?_eq_some present, Nat.add_assoc]
  rw [Reader.bind_of_ok (by rw [read]), read]
  rfl

/-- A byte is missing at the end of the data, be it this one or a later one. -/
theorem byte_missing (remains : buffer.Remains start rest) (index : Nat)
    (inside : index ≤ rest.length) {next : UInt8 → Reader β}
    (later : index < rest.length → ∀ value,
      (next value buffer (start + (index + 1))).result = .error (.endOfData buffer.size)) :
    ((Reader.byte >>= next) buffer (start + index)).result = .error (.endOfData buffer.size) := by
  rcases Nat.lt_or_eq_of_le inside with present | atEnd
  · rw [remains.byte_bind index present]
    exact later present _
  · have size : start + index = buffer.size := by rw [atEnd, remains.1]
    have ended : Reader.byte buffer (start + index) =
        ⟨.error (.endOfData buffer.size), buffer.size, []⟩ := by
      rw [Reader.byte, Array.getElem?_eq_none (by omega), size]
    rw [Reader.bind_of_error (by rw [ended])]

theorem bytes_bind (remains : buffer.Remains start rest) {count : Nat}
    (enough : count ≤ rest.length) (next : Bytes → Reader β) :
    (Reader.bytes count >>= next) buffer start = next (rest.take count) buffer (start + count) := by
  have size := remains.1
  have read : Reader.bytes count buffer start = ⟨.ok (rest.take count), start + count, []⟩ := by
    rw [Reader.bytes, if_pos (by omega), Reader.toList_extract, remains.2]
  rw [Reader.bind_of_ok (by rw [read]), read]
  rfl

end Buffer.Remains

theorem Reader.require_bind_of_true {β : Type} {condition : Bool} (holds : condition = true)
    (fault : Fault) (next : Unit → Reader β) : (require condition fault >>= next) = next () := by
  rw [holds]
  exact Reader.pure_bind () next

theorem Reader.require_bind_of_false {β : Type} {condition : Bool} (fails : condition = false)
    (fault : Fault) (next : Unit → Reader β) (buffer : Buffer) (start : Nat) :
    ((require condition fault >>= next) buffer start).result = .error fault := by
  rw [fails]
  rfl

/-! ## Parts of a header -/

namespace Header

/-- The kinds of field in the order in which a header declares their widths. -/
def declared : List WidthField := [.int, .sizeT, .instruction, .number]

/-- The first field, in the order of the bytes, whose width is a zero byte. -/
def zeroWidth? (widths : Bytes) : Option WidthField :=
  ((declared.zip widths).find? fun field => field.2 = 0).map Prod.fst

theorem firstZero?_ofBytes (int sizeT instruction number : UInt8) (rest : Bytes) :
    Widths.firstZero? ⟨int.toNat, sizeT.toNat, instruction.toNat, number.toNat⟩ =
      zeroWidth? (int :: sizeT :: instruction :: number :: rest) := by
  have isZero (byte : UInt8) : ((byte.toNat : Int) = 0) ↔ byte = 0 := by
    rw [← UInt8.toNat_inj, UInt8.toNat_zero]
    omega
  simp only [Widths.firstZero?, isZero, zeroWidth?, declared, List.zip_cons_cons, List.find?_cons]
  by_cases intZero : int = 0
  · simp [intZero]
  by_cases sizeTZero : sizeT = 0
  · simp [intZero, sizeTZero]
  by_cases instructionZero : instruction = 0
  · simp [intZero, sizeTZero, instructionZero]
  by_cases numberZero : number = 0
  · simp [intZero, sizeTZero, instructionZero, numberZero]
  · simp [intZero, sizeTZero, instructionZero, numberZero]

/-- The widths that are declared from the eighth byte on. -/
def widthsAt (rest : Bytes) : Widths :=
  ⟨(rest.getD 7 0).toNat, (rest.getD 8 0).toNat, (rest.getD 9 0).toNat, (rest.getD 10 0).toNat⟩

theorem firstZero?_widthsAt {rest : Bytes} (enough : 11 ≤ rest.length) :
    (widthsAt rest).firstZero? = zeroWidth? (rest.drop 7) := by
  have cut (index : Nat) (present : index < rest.length) :
      rest.drop index = rest.getD index 0 :: rest.drop (index + 1) := by
    rw [List.drop_eq_getElem_cons present, List.getD_eq_getElem?_getD,
      List.getElem?_eq_getElem present, Option.getD_some]
  rw [cut 7 (by omega), cut 8 (by omega), cut 9 (by omega), cut 10 (by omega)]
  exact firstZero?_ofBytes _ _ _ _ _

/-- What is read of a header after its widths. -/
def readIntegral (version format endianness : UInt8) (widths : Widths) : Reader Header := do
  let integral ← Reader.byte
  let header : Header :=
    ⟨version.toNat, format.toNat, endianness.toNat, widths, integral.toNat⟩
  Reader.noteIf (header.version != supportedVersion) (.unexpectedVersion header)
  Reader.note (.headerRead header)
  return header

/-- What is read of a header that started at `start`, from its widths on. -/
def readWidths (start : Nat) (version format endianness : UInt8) : Reader Header := do
  let int ← Reader.byte
  let sizeT ← Reader.byte
  let instruction ← Reader.byte
  let number ← Reader.byte
  let widths : Widths := ⟨int.toNat, sizeT.toNat, instruction.toNat, number.toNat⟩
  match widths.firstZero? with
  | some field => Reader.fail (.zeroWidth field start)
  | none => readIntegral version format endianness widths

/-- What is read of a header that started at `start`, from its version on. -/
def readVersion (start : Nat) : Reader Header := do
  let version ← Reader.byte
  let format ← Reader.byte
  let endianness ← Reader.byte
  Reader.require (endianness == 0 || endianness == 1)
    (.badEndianness endianness.toNat (start + 6))
  readWidths start version format endianness

variable {buffer : Buffer} {start : Nat} {rest : Bytes}

theorem read_eq : read buffer start =
    (do
      let found ← Reader.bytes 4
      Reader.require (found == signature) (.badSignature found start)
      readVersion start : Reader Header) buffer start :=
  rfl

theorem read_short (remains : buffer.Remains start rest) (short : rest.length < 4) :
    (read buffer start).result = .error (.shortData 4 rest.length start) := by
  have size := remains.1
  have ended : Reader.bytes 4 buffer start =
      ⟨.error (.shortData 4 rest.length start), start, []⟩ := by
    have writable : Text.isWritable (4 : Nat) = true :=
      Text.isWritable_of_lt_capacity (by decide : 1 ≤ 255) (by decide)
    have available : (buffer.size : Int) - start = rest.length := by omega
    rw [Reader.bytes, if_neg (by omega), Reader.shortage, if_pos writable, available]
  rw [read_eq, Reader.bind_of_error (by rw [ended])]

theorem read_badSignature (remains : buffer.Remains start rest) (enough : 4 ≤ rest.length)
    (unsigned : rest.take 4 ≠ signature) :
    (read buffer start).result = .error (.badSignature (rest.take 4) start) := by
  rw [read_eq, remains.bytes_bind enough]
  exact Reader.require_bind_of_false (by simpa using unsigned) _ _ _ _

theorem read_eq_readVersion (remains : buffer.Remains start rest) (enough : 4 ≤ rest.length)
    (signed : rest.take 4 = signature) :
    read buffer start = readVersion start buffer (start + 4) := by
  rw [read_eq, remains.bytes_bind enough, Reader.require_bind_of_true (by simpa using signed)]

theorem readVersion_short (remains : buffer.Remains start rest) (enough : 4 ≤ rest.length)
    (short : rest.length < 7) :
    (readVersion start buffer (start + 4)).result = .error (.endOfData buffer.size) := by
  refine remains.byte_missing 4 enough fun _ version => ?_
  refine remains.byte_missing 5 (by omega) fun _ format => ?_
  refine remains.byte_missing 6 (by omega) fun _ endianness => ?_
  omega

theorem readVersion_badEndianness (remains : buffer.Remains start rest) (enough : 7 ≤ rest.length)
    (unordered : rest.getD 6 0 ∉ [0, 1]) :
    (readVersion start buffer (start + 4)).result =
      .error (.badEndianness (rest.getD 6 0).toNat (start + 6)) := by
  rw [readVersion, remains.byte_bind 4 (by omega), remains.byte_bind 5 (by omega),
    remains.byte_bind 6 (by omega)]
  exact Reader.require_bind_of_false (by simpa using unordered) _ _ _ _

theorem readVersion_eq_readWidths (remains : buffer.Remains start rest) (enough : 7 ≤ rest.length)
    (ordered : rest.getD 6 0 ∈ [0, 1]) :
    readVersion start buffer (start + 4) =
      readWidths start (rest.getD 4 0) (rest.getD 5 0) (rest.getD 6 0) buffer (start + 7) := by
  rw [readVersion, remains.byte_bind 4 (by omega), remains.byte_bind 5 (by omega),
    remains.byte_bind 6 (by omega), Reader.require_bind_of_true (by simpa using ordered)]

variable (version format endianness : UInt8)

theorem readWidths_short (remains : buffer.Remains start rest) (enough : 7 ≤ rest.length)
    (short : rest.length < 11) :
    (readWidths start version format endianness buffer (start + 7)).result =
      .error (.endOfData buffer.size) := by
  refine remains.byte_missing 7 enough fun _ int => ?_
  refine remains.byte_missing 8 (by omega) fun _ sizeT => ?_
  refine remains.byte_missing 9 (by omega) fun _ instruction => ?_
  refine remains.byte_missing 10 (by omega) fun _ number => ?_
  omega

theorem readWidths_eq (remains : buffer.Remains start rest) (enough : 11 ≤ rest.length) :
    readWidths start version format endianness buffer (start + 7) =
      (match zeroWidth? (rest.drop 7) with
      | some field => Reader.fail (.zeroWidth field start)
      | none => readIntegral version format endianness (widthsAt rest)) buffer (start + 11) := by
  rw [← firstZero?_widthsAt enough, readWidths, remains.byte_bind 7 (by omega),
    remains.byte_bind 8 (by omega), remains.byte_bind 9 (by omega), remains.byte_bind 10 (by omega)]
  rfl

theorem readIntegral_short (remains : buffer.Remains start rest) (enough : 11 ≤ rest.length)
    (short : rest.length < 12) (widths : Widths) :
    (readIntegral version format endianness widths buffer (start + 11)).result =
      .error (.endOfData buffer.size) := by
  refine remains.byte_missing 11 enough fun _ integral => ?_
  omega

theorem readIntegral_takes (remains : buffer.Remains start rest) (enough : 12 ≤ rest.length)
    (widths : Widths) :
    ∃ header, (readIntegral version format endianness widths).Takes buffer (start + 11) header
      (start + 12) := by
  refine ⟨⟨version.toNat, format.toNat, endianness.toNat, widths, (rest.getD 11 0).toNat⟩, ?_⟩
  refine Reader.takes_byte_bind.mpr ⟨_, remains.getElem?_eq_some enough, ?_⟩
  refine Reader.takes_bind.mpr ⟨(), _, Reader.takes_noteIf.mpr rfl, ?_⟩
  refine Reader.takes_bind.mpr ⟨(), _, Reader.takes_note.mpr rfl, ?_⟩
  exact Reader.takes_pure.mpr ⟨rfl, rfl⟩

end Header

/-! ## The outcome -/

/-- The run ended with the given fault, which is reported in a category and at a place. -/
structure Run.FailsWith {α : Type} (run : Run α) (fault : Fault) (category : Category)
    (offset : Nat) : Prop where
  failed : run.result = .error fault
  category : fault.report.category = category
  offset : fault.report.offset = some (offset : Int)

namespace Header

/-- What the bytes `rest`, which start at `start` and end with the data at `stop`, make of a reading
of a header: the first defect in the order of this table, or a header stored in twelve of them. -/
def Outcome (start stop : Nat) (rest : Bytes) (run : Run Header) : Prop :=
  if rest.length < 4 then run.FailsWith (.shortData 4 rest.length start) .truncated start
  else if rest.take 4 ≠ signature then
    run.FailsWith (.badSignature (rest.take 4) start) .header start
  else if rest.length < 7 then run.FailsWith (.endOfData stop) .truncated stop
  else if rest.getD 6 0 ∉ [0, 1] then
    run.FailsWith (.badEndianness (rest.getD 6 0).toNat (start + 6)) .header (start + 6)
  else if rest.length < 11 then run.FailsWith (.endOfData stop) .truncated stop
  else
    match zeroWidth? (rest.drop 7) with
    | some field =>
      run.FailsWith (.zeroWidth field start) .header start ∧
        (Fault.zeroWidth field start).report.text = s!"Declared width of {field.name} is zero"
    | none =>
      if rest.length < 12 then run.FailsWith (.endOfData stop) .truncated stop
      else ∃ header : Header, run.result = .ok header ∧ run.offset = start + 12 ∧ header.Valid ∧
        header.encode = rest.take 12

variable {buffer : Buffer} {start : Nat} {rest : Bytes}

/-- Each row of the table is met by one part of the reader, those before it having gone through. -/
theorem read_outcome (remains : buffer.Remains start rest) :
    Outcome start buffer.size rest (read buffer start) := by
  unfold Outcome
  split
  next short => exact ⟨read_short remains short, rfl, rfl⟩
  next hasSignature =>
  split
  next unsigned => exact ⟨read_badSignature remains (by omega) unsigned, rfl, rfl⟩
  next signed =>
  have fromVersion := read_eq_readVersion remains (by omega) (Decidable.not_not.mp signed)
  split
  next short =>
    rw [fromVersion]
    exact ⟨readVersion_short remains (by omega) short, rfl, rfl⟩
  next hasOrder =>
  split
  next unordered =>
    rw [fromVersion]
    exact ⟨readVersion_badEndianness remains (by omega) unordered, rfl, rfl⟩
  next ordered =>
  have fromWidths := fromVersion.trans
    (readVersion_eq_readWidths remains (by omega) (Decidable.not_not.mp ordered))
  split
  next short =>
    rw [fromWidths]
    exact ⟨readWidths_short _ _ _ remains (by omega) short, rfl, rfl⟩
  next hasWidths =>
  have fromIntegral := fromWidths.trans (readWidths_eq _ _ _ remains (by omega))
  split
  next field isZero =>
    rw [isZero] at fromIntegral
    exact ⟨⟨congrArg Run.result fromIntegral, rfl, rfl⟩, rfl⟩
  next noZero =>
  rw [noZero] at fromIntegral
  split
  next short =>
    rw [fromIntegral]
    exact ⟨readIntegral_short _ _ _ remains (by omega) short _, rfl, rfl⟩
  next complete =>
    -- That a header is read is all that is left to show: what reading accepts is stored there.
    obtain ⟨header, integralTaken⟩ := readIntegral_takes (rest.getD 4 0) (rest.getD 5 0)
      (rest.getD 6 0) remains (by omega) (widthsAt rest)
    have taken : read.Takes buffer start header (start + 12) := by
      rw [Reader.Takes, fromIntegral]
      exact integralTaken
    obtain ⟨_, valid, held, -, rfl⟩ := read_acceptsOnly taken
    exact ⟨_, taken.1, taken.2, valid, remains.2 ▸ held.eq_take⟩

/-- Which defect of a header is reported, and where, can be told from the bytes alone, and without a
defect the header that the bytes store is read. So every header that can be stored is read back,
wherever it stands. -/
theorem read_first_defect :
    (∀ (buffer : Buffer) (start : Nat), start ≤ buffer.size →
      Outcome start buffer.size (buffer.toList.drop start) (read buffer start)) ∧
    ∀ header : Header, header.Valid → ∀ leading following : Bytes,
      read.Takes (leading ++ header.encode ++ following).toArray leading.length header
        (leading.length + 12) := by
  constructor
  · intro buffer start inside
    exact read_outcome (.ofDrop inside)
  · intro header valid leading following
    have held : Buffer.Holds (leading ++ header.encode ++ following).toArray leading.length
        header.encode := by
      rw [Buffer.Holds, List.append_assoc, List.drop_left]
      exact List.prefix_append _ _
    exact read_decodes valid held

/-- One more byte, then a header whose second and third width are zero and whose last byte is
missing. -/
def defectiveData : Buffer :=
  #[0xff, 0x1b, 0x4c, 0x75, 0x61, 0x52, 9, 1, 4, 0, 0, 8]

theorem read_first_defect_defectiveData :
    (read defectiveData 1).FailsWith (.zeroWidth .sizeT 1) .header 1 ∧
      read.Takes ([0xff] ++ encode ⟨0x52, 9, 1, ⟨4, 8, 4, 255⟩, 7⟩ ++ [3]).toArray 1
        ⟨0x52, 9, 1, ⟨4, 8, 4, 255⟩, 7⟩ 13 := by
  have valid : Valid ⟨0x52, 9, 1, ⟨4, 8, 4, 255⟩, 7⟩ := by constructor <;> decide
  obtain ⟨outcome, restored⟩ := read_first_defect
  have refused : (read defectiveData 1).FailsWith (.zeroWidth .sizeT 1) .header 1 ∧
      (Fault.zeroWidth .sizeT 1).report.text = "Declared width of size_t is zero" :=
    outcome defectiveData 1 (by decide)
  exact ⟨refused.1, restored _ valid [0xff] [3]⟩

end Header

end LuaBytecode
