import LuaBytecode.Proofs.HeaderFormat
import LuaBytecode.Proofs.ReaderCall

/-!
# The steps of readers

A reader takes bytes at its cursor, looks at the cursor, notes something, or fails for a reason that
is found there, and goes on where it stopped. This module says once for every reader of the format
which of these steps it takes. Beside each reader goes the one that does the same on displaced data:
the two differ only in what they were told about their cursors. What is known of runs, such as where
they end and what becomes of them on other data, is derived from the steps by induction, so that no
proof about runs looks at the readers again.
-/

set_option autoImplicit false

namespace LuaBytecode

/-- The same fault, found further on. -/
def Fault.displaced (distance : Nat) : Fault → Fault
  | .endOfData offset => .endOfData (offset + distance)
  | .shortData wanted available offset => .shortData wanted available (offset + distance)
  | .badSignature found offset => .badSignature found (offset + distance)
  | .badEndianness flag offset => .badEndianness flag (offset + distance)
  | .zeroWidth field offset => .zeroWidth field (offset + distance)
  | .unknownConstant tag offset => .unknownConstant tag (offset + distance)
  | .tooDeep offset => .tooDeep (offset + distance)
  | .unwritableLength => .unwritableLength
  | .negativeLength => .negativeLength
  | .unknownByteOrder => .unknownByteOrder

def Log.Event.displaced (distance : Nat) : Log.Event → Log.Event
  | .prototypeRead span =>
    .prototypeRead { span with start := span.start + distance, stop := span.stop + distance }
  | .trailingBytes count offset => .trailingBytes count (offset + distance)
  | event => event

/-- No width is negative or more than a header can say. Widths of zero are allowed. -/
structure Header.Narrow (header : Header) : Prop where
  int : 0 ≤ header.widths.int ∧ header.widths.int ≤ 255
  sizeT : 0 ≤ header.widths.sizeT ∧ header.widths.sizeT ≤ 255
  instruction : 0 ≤ header.widths.instruction ∧ header.widths.instruction ≤ 255
  number : 0 ≤ header.widths.number ∧ header.widths.number ≤ 255

theorem Header.Valid.narrow {header : Header} (valid : header.Valid) : header.Narrow where
  int := ⟨Int.le_trans (by decide) valid.int.1, valid.int.2⟩
  sizeT := ⟨Int.le_trans (by decide) valid.sizeT.1, valid.sizeT.2⟩
  instruction := ⟨Int.le_trans (by decide) valid.instruction.1, valid.instruction.2⟩
  number := ⟨Int.le_trans (by decide) valid.number.1, valid.number.2⟩

theorem capacity_le_pow_ten {width digits : Nat} (enough : 3 * width ≤ digits) :
    Bytes.capacity width ≤ Nat.pow 10 digits :=
  calc Bytes.capacity width ≤ Nat.pow (Nat.pow 10 3) width := Nat.pow_le_pow_left (by decide) width
    _ = Nat.pow 10 (3 * width) := (Nat.pow_mul 10 3 width).symm
    _ ≤ Nat.pow 10 digits := Nat.pow_le_pow_right (by decide) enough

/-- What a field holds can be written in a message. -/
theorem Text.isWritable_of_lt_capacity {width value : Nat} (narrow : width ≤ 255)
    (fits : value < Bytes.capacity width) : Text.isWritable value = true := by
  -- A byte has no more than three decimal digits, so there are at most 765 of them.
  have enough : 3 * width ≤ Text.maxDigits :=
    Nat.le_trans (Nat.mul_le_mul_left 3 narrow) (by decide)
  rw [Text.isWritable, decide_eq_true_iff, Int.natAbs_natCast]
  exact Nat.lt_of_lt_of_le fits (capacity_le_pow_ten enough)

/-- What is given when the steps of a reader are followed: the data and where in them the call
started, how far the other copy of the data is displaced, whether no more is asked for than a header
can say, and what may be noted. -/
structure Circumstances where
  buffer : Buffer
  entry : Nat
  distance : Nat
  narrow : Prop
  allowed : Log.Event → Prop

/-- Where a fault lies, given the cursor at which reading stops because of it. The last three lie in
what the caller asked for. -/
def Fault.FoundAt (given : Circumstances) (cursor : Nat) : Fault → Prop
  | .endOfData offset => offset = cursor ∧ given.buffer.size < cursor + 1
  | .shortData wanted available offset => offset = cursor ∧ given.buffer.size < cursor + wanted ∧
      available = (given.buffer.size : Int) - cursor
  | .badSignature _ offset => offset = given.entry ∧ cursor = given.entry + 4
  | .badEndianness _ offset => offset = given.entry + 6 ∧ cursor = offset + 1
  | .zeroWidth _ offset => offset = given.entry ∧ cursor = given.entry + 11
  | .unknownConstant tag offset => cursor = offset + 1 ∧
      ∃ byte : UInt8, given.buffer[offset]? = some byte ∧ byte.toNat = tag ∧ byte ∉ [0, 1, 3, 4]
  | .tooDeep offset => offset = cursor
  | .unwritableLength | .negativeLength | .unknownByteOrder => ¬given.narrow

namespace Reader

/-- What a reader does at a cursor, step by step, and that it takes at least a stated number of
bytes unless it fails. The second reader does the same on displaced data. -/
inductive Steps (given : Circumstances) :
    {α : Type} → (least : Nat) → (here there : Reader α) → (start : Nat) → Prop where
  | pure {α : Type} (value : α) (start : Nat) :
      Steps given 0 (Pure.pure value) (Pure.pure value) start
  | note {event : Log.Event} (permitted : given.allowed event) (start : Nat) :
      Steps given 0 (note event) (note (event.displaced given.distance)) start
  | byte (start : Nat) : Steps given 1 byte byte start
  | bytes {count : Nat} (writable : given.narrow → Text.isWritable count = true) (start : Nat) :
      Steps given count (bytes count) (bytes count) start
  | fail {α : Type} (fault : Fault) {least start : Nat} (found : fault.FoundAt given start) :
      Steps given least (fail fault : Reader α) (fail (fault.displaced given.distance)) start
  | offset_bind {β : Type} {next next' : Nat → Reader β} {least start : Nat}
      (rest : Steps given least (next start) (next' (start + given.distance)) start) :
      Steps given least (offset >>= next) (offset >>= next') start
  | bind {α β : Type} {first first' : Reader α} {next next' : α → Reader β}
      {least more start : Nat} (here : Steps given least first first' start)
      (rest : ∀ value stop, first.Takes given.buffer start value stop →
        Steps given more (next value) (next' value) stop) :
      Steps given (least + more) (first >>= next) (first' >>= next') start
  | weaken {α : Type} {here there : Reader α} {least less start : Nat} (fewer : less ≤ least)
      (steps : Steps given least here there start) : Steps given less here there start

/-- The steps of a reader that does the same at every cursor. -/
def Walks (given : Circumstances) {α : Type} (least : Nat) (reader : Reader α) : Prop :=
  ∀ start, Steps given least reader reader start

variable {α β : Type} {given : Circumstances} {least start : Nat}

namespace Steps

theorem relax {here there : Reader α} (steps : Steps given least here there start) :
    Steps given 0 here there start :=
  steps.weaken (Nat.zero_le _)

/-- Of a sequence only the first read is counted. -/
theorem followed {first first' : Reader α} {next next' : α → Reader β}
    (here : Steps given least first first' start)
    (rest : ∀ value stop, first.Takes given.buffer start value stop →
      Steps given 0 (next value) (next' value) stop) :
    Steps given least (first >>= next) (first' >>= next') start :=
  here.bind rest

/-- Of a sequence only what follows the first read is counted. -/
theorem passed {first first' : Reader α} {next next' : α → Reader β} {more : Nat}
    (here : Steps given least first first' start)
    (rest : ∀ value stop, first.Takes given.buffer start value stop →
      Steps given more (next value) (next' value) stop) :
    Steps given more (first >>= next) (first' >>= next') start := by
  rw [← Nat.zero_add more]
  exact here.relax.bind rest

theorem byte_bind {next next' : UInt8 → Reader β}
    (rest : ∀ value, given.buffer[start]? = some value →
      Steps given least (next value) (next' value) (start + 1)) :
    Steps given (least + 1) (Reader.byte >>= next) (Reader.byte >>= next') start := by
  rw [Nat.add_comm]
  refine (byte start).bind fun value stop taken => ?_
  obtain ⟨held, rfl⟩ := takes_byte.mp taken
  exact rest value held

theorem require_bind {condition : Bool} {fault : Fault} {next next' : Unit → Reader β}
    (found : fault.FoundAt given start) (rest : Steps given least (next ()) (next' ()) start) :
    Steps given least (Reader.require condition fault >>= next)
      (Reader.require condition (fault.displaced given.distance) >>= next') start := by
  cases condition with
  | false => exact (fail fault found).followed fun _ _ taken => absurd taken takes_fail
  | true =>
      refine (pure () start).passed fun _ stop taken => ?_
      obtain ⟨-, rfl⟩ := takes_pure.mp taken
      exact rest

theorem noteIf (condition : Bool) {event : Log.Event} (permitted : given.allowed event)
    (start : Nat) :
    Steps given 0 (noteIf condition event) (noteIf condition (event.displaced given.distance))
      start := by
  cases condition with
  | false => exact .pure () start
  | true => exact .note permitted start

end Steps

theorem Walks.items {item : Reader α} (walks : Walks given least item) (count : Nat) :
    Walks given (count * least) (items item count) := by
  intro start
  induction count generalizing start with
  | zero =>
      rw [Nat.zero_mul]
      exact .pure [] start
  | succ count ih =>
      rw [Nat.succ_mul, Nat.add_comm]
      exact (walks start).bind fun first middle _ =>
        (ih middle).followed fun rest stop _ => .pure (first :: rest) stop

/-! ## Fields -/

theorem walks_field {width : Int} (fits : given.narrow → 0 ≤ width ∧ width ≤ 255) :
    Walks given width.natAbs (field width) := by
  intro start
  unfold field
  split
  next negative =>
    refine .fail .negativeLength fun narrow => ?_
    have := fits narrow
    omega
  next nonneg =>
    have same : width.natAbs = width.toNat := by omega
    rw [same]
    refine .bytes (fun narrow => ?_) start
    have bounds := fits narrow
    have small : width.toNat < Bytes.capacity 2 := by
      show width.toNat < 65536
      omega
    exact Text.isWritable_of_lt_capacity (by decide) small

theorem walks_unsigned {width : Int} (fits : given.narrow → 0 ≤ width ∧ width ≤ 255)
    (order : ByteOrder) : Walks given width.natAbs (unsigned width order) :=
  fun start => (walks_field fits start).followed fun stored stop _ =>
    .pure (order.unsigned stored) stop

theorem walks_namedUnsigned (wide : ¬given.narrow) (width : Int) (orderName : String) :
    Walks given width.natAbs (namedUnsigned width orderName) := by
  intro start
  refine (walks_field (fun narrow => absurd narrow wide) start).followed fun stored stop _ => ?_
  cases ByteOrder.ofName? orderName with
  | none => exact .fail .unknownByteOrder wide
  | some order => exact .pure _ stop

end Reader

open Reader (Steps Walks)

variable {given : Circumstances} {header : Header}

namespace Header

section Fields

variable (narrow : given.narrow → header.Narrow)
include narrow

theorem walks_integerField : Walks given header.widths.int.natAbs header.integerField :=
  Reader.walks_unsigned (fun asked => (narrow asked).int) _

theorem walks_sizeField : Walks given header.widths.sizeT.natAbs header.sizeField :=
  Reader.walks_unsigned (fun asked => (narrow asked).sizeT) _

theorem walks_stringField : Walks given header.widths.sizeT.natAbs header.stringField := by
  intro start
  refine (walks_sizeField narrow start).followed fun length middle taken => ?_
  split
  next => exact .pure [] middle
  next =>
    have writable (asked : given.narrow) : Text.isWritable length = true := by
      have fits : length < Bytes.capacity header.widths.sizeT.toNat :=
        Reader.lt_of_takes_unsigned taken
      have bounds := (narrow asked).sizeT
      exact Text.isWritable_of_lt_capacity (by omega) fits
    exact (Steps.bytes writable middle).passed fun stored stop _ =>
      .pure (Bytes.beforeZero stored) stop

theorem walks_nameField : Walks given header.widths.sizeT.natAbs header.nameField :=
  fun start => (walks_stringField narrow start).followed fun stored stop _ =>
    .pure (Bytes.latin1 stored) stop

theorem walks_counted {α : Type} {item : Reader α} {least : Nat} (walks : Walks given least item) :
    Walks given header.widths.int.natAbs (header.counted item) :=
  fun start => (walks_integerField narrow start).followed fun count middle _ =>
    (walks.items count middle).relax

end Fields

/-- The faults of a header are told from where it starts, so it is followed there only. -/
theorem steps_read (warned : ∀ header, given.allowed (.unexpectedVersion header))
    (told : ∀ header, given.allowed (.headerRead header)) :
    Steps given Header.size Header.read Header.read given.entry := by
  have writable : Text.isWritable signature.length = true :=
    Text.isWritable_of_lt_capacity (by decide : 1 ≤ 255) (by decide)
  show Steps given (signature.length + 8) _ _ _
  refine .offset_bind ?_
  refine (Steps.bytes (fun _ => writable) _).bind fun found middle taken => ?_
  obtain ⟨-, -, rfl⟩ := (Reader.takes_bytes (by decide)).mp taken
  refine .require_bind ⟨rfl, rfl⟩ ?_
  refine .byte_bind fun version _ => ?_
  refine .byte_bind fun format _ => ?_
  refine .byte_bind fun endianness _ => ?_
  rw [Nat.add_right_comm given.entry given.distance 6]
  refine .require_bind ⟨rfl, rfl⟩ ?_
  refine .byte_bind fun int _ => ?_
  refine .byte_bind fun sizeT _ => ?_
  refine .byte_bind fun instruction _ => ?_
  refine .byte_bind fun number _ => ?_
  dsimp only
  split
  next field _ => exact .fail (.zeroWidth field given.entry) ⟨rfl, rfl⟩
  next =>
    refine .byte_bind fun integral _ => ?_
    refine (Steps.noteIf _ (warned _) _).followed fun _ _ _ => ?_
    exact (Steps.note (told _) _).followed fun _ stop _ => .pure _ stop

end Header

/-! ## Items -/

section Items

variable (narrow : given.narrow → header.Narrow)
include narrow

theorem Number.walks_read : Walks given header.widths.number.natAbs (Number.read header) :=
  fun start => (Reader.walks_field (fun asked => (narrow asked).number) start).followed
    fun stored stop _ => .pure (ofBytes header stored) stop

theorem Instruction.walks_read (unknown : ∀ opcode, given.allowed (.unknownOpcode opcode)) :
    Walks given header.widths.instruction.natAbs (Instruction.read header) :=
  fun start => (Reader.walks_field (fun asked => (narrow asked).instruction) start).followed
    fun stored middle _ => (Steps.noteIf _ (unknown _) middle).followed fun _ stop _ =>
      .pure (ofBytes header.order stored) stop

theorem Constant.walks_read : Walks given 1 (Constant.read header) := by
  intro start
  refine .offset_bind ?_
  refine .byte_bind fun tag held => ?_
  split
  next => exact .pure _ _
  split
  next => exact (Steps.byte _).passed fun _ stop _ => .pure _ stop
  split
  next => exact (Number.walks_read narrow _).passed fun _ stop _ => .pure _ stop
  split
  next => exact (Header.walks_stringField narrow _).passed fun _ stop _ => .pure _ stop
  next notNil notBoolean notNumber notString =>
    refine .fail (.unknownConstant tag.toNat start) ⟨rfl, tag, held, rfl, ?_⟩
    simp [notNil, notBoolean, notNumber, notString]

theorem Local.walks_read : Walks given header.widths.sizeT.natAbs (Local.read header) := by
  intro start
  refine (Header.walks_nameField narrow start).followed fun name _ _ => ?_
  refine (Header.walks_integerField narrow _).passed fun startpc _ _ => ?_
  exact (Header.walks_integerField narrow _).passed fun endpc stop _ => .pure _ stop

/-- The four bytes are counted besides the name, as they are there under any widths. -/
theorem FunctionBody.walks_readFront (unknown : ∀ opcode, given.allowed (.unknownOpcode opcode)) :
    Walks given (header.widths.sizeT.natAbs + 4) (readFront header) := by
  intro start
  refine (Header.walks_nameField narrow start).bind fun source _ _ => ?_
  refine (Header.walks_integerField narrow _).passed fun lineDefined _ _ => ?_
  refine (Header.walks_integerField narrow _).passed fun lastLineDefined _ _ => ?_
  refine .byte_bind fun upvalueCount _ => ?_
  refine .byte_bind fun paramCount _ => ?_
  refine .byte_bind fun vararg _ => ?_
  refine .byte_bind fun maxStackSize _ => ?_
  have instructions := Header.walks_counted narrow (Instruction.walks_read narrow unknown)
  refine (instructions _).passed fun instructions _ _ => ?_
  refine (Header.walks_counted narrow (Constant.walks_read narrow) _).passed ?_
  exact fun constants stop _ => .pure _ stop

theorem FunctionBody.walks_readBack (keep : Bool) (front : FunctionBody) :
    Walks given header.widths.int.natAbs (front.readBack header keep) := by
  intro start
  refine (Header.walks_counted narrow (Header.walks_integerField narrow) start).followed ?_
  intro linePositions _ _
  refine (Header.walks_counted narrow (Local.walks_read narrow) _).passed ?_
  intro locals _ _
  refine (Header.walks_counted narrow (Header.walks_nameField narrow) _).passed ?_
  exact fun upvalues stop _ => .pure _ stop

theorem Prototype.walks_readWithin (unknown : ∀ opcode, given.allowed (.unknownOpcode opcode))
    (ended : ∀ span, given.allowed (.prototypeRead span)) (options : Options) (levels : Nat)
    (depth : Int) :
    Walks given header.widths.sizeT.natAbs (readWithin header options levels depth) := by
  intro start
  induction levels generalizing depth start with
  | zero => exact .offset_bind (.fail (.tooDeep start) rfl)
  | succ levels ih =>
      refine .offset_bind ?_
      have front := FunctionBody.walks_readFront narrow unknown start
      refine (front.weaken (Nat.le_add_right _ _)).followed fun front _ _ => ?_
      refine (Header.walks_counted narrow (ih (depth + 1)) _).passed ?_
      intro functions _ _
      refine (FunctionBody.walks_readBack narrow _ front _).passed fun body _ _ => ?_
      refine .offset_bind ?_
      exact (Steps.note (ended _) _).followed fun _ stop _ => .pure _ stop

/-- How many bytes an item takes at least. -/
def ItemKind.least (header : Header) : ItemKind → Nat
  | .integer => header.widths.int.natAbs
  | .size => header.widths.sizeT.natAbs
  | .number => header.widths.number.natAbs
  | .string => header.widths.sizeT.natAbs
  | .name => header.widths.sizeT.natAbs
  | .constant => 1
  | .instruction => header.widths.instruction.natAbs
  | .localVariable => header.widths.sizeT.natAbs
  | .list _ => header.widths.int.natAbs
  | .prototype _ _ => header.widths.sizeT.natAbs

theorem ItemKind.walks (all : ∀ event, given.allowed event) (kind : ItemKind) :
    Walks given (kind.least header) (kind.reader header) := by
  induction kind with
  | integer => exact Header.walks_integerField narrow
  | size => exact Header.walks_sizeField narrow
  | number => exact Number.walks_read narrow
  | string => exact Header.walks_stringField narrow
  | name => exact Header.walks_nameField narrow
  | constant => exact Constant.walks_read narrow
  | instruction => exact Instruction.walks_read narrow fun _ => all _
  | localVariable => exact Local.walks_read narrow
  | list item ih => exact Header.walks_counted narrow ih
  | prototype options depth =>
      exact Prototype.walks_readWithin narrow (fun _ => all _) (fun _ => all _) options _ depth

end Items

/-- Nothing is known of a call but where it starts. -/
def Circumstances.ofCall (buffer : Buffer) (entry distance : Nat) : Circumstances where
  buffer := buffer
  entry := entry
  distance := distance
  narrow := False
  allowed := fun _ => True

theorem Call.steps (call : Call) (buffer : Buffer) (entry distance : Nat) :
    Steps (.ofCall buffer entry distance) 0 call.reader call.reader entry := by
  cases call with
  | byte => exact (Steps.byte _).relax
  | bytes count => exact (Reader.walks_field False.elim _).relax
  | unsigned width orderName => exact (Reader.walks_namedUnsigned id width orderName _).relax
  | fileHeader =>
      have steps : Steps (.ofCall buffer entry distance) _ Header.read Header.read entry :=
        Header.steps_read (fun _ => trivial) fun _ => trivial
      exact steps.relax
  | item header kind => exact (kind.walks False.elim (fun _ => trivial) _).relax

end LuaBytecode
