import LuaBytecode.Proofs.StoredInteger
import LuaBytecode.Reader

/-!
# Successful reads

What a successful read says about the buffer. `Reader.Takes` relates the cursor before a read to its
value and to the cursor after it, and forgets the events; a sequence of reads succeeds exactly when
its parts succeed one after the other. `Buffer.Holds` says which bytes stand at a cursor, and the
elementary readers take exactly what the buffer holds.
-/

set_option autoImplicit false

namespace LuaBytecode

/-- The buffer has the given bytes at and after the cursor. -/
def Buffer.Holds (buffer : Buffer) (start : Nat) (bytes : Bytes) : Prop :=
  bytes <+: buffer.toList.drop start

namespace Buffer

variable {buffer : Buffer} {start : Nat}

@[simp] theorem holds_nil : buffer.Holds start [] :=
  List.nil_prefix

theorem holds_append {left right : Bytes} :
    buffer.Holds start (left ++ right) ↔
      buffer.Holds start left ∧ buffer.Holds (start + left.length) right := by
  constructor
  · rintro ⟨rest, found⟩
    refine ⟨⟨right ++ rest, by rw [← found, List.append_assoc]⟩, rest, ?_⟩
    rw [← List.drop_drop, ← found, List.append_assoc, List.drop_left]
  · rintro ⟨⟨rest, found⟩, ⟨after, foundAfter⟩⟩
    rw [← List.drop_drop, ← found, List.drop_left] at foundAfter
    exact ⟨after, by rw [List.append_assoc, foundAfter, found]⟩

theorem holds_cons {byte : UInt8} {rest : Bytes} :
    buffer.Holds start (byte :: rest) ↔
      buffer[start]? = some byte ∧ buffer.Holds (start + 1) rest := by
  have holdsOne : buffer.Holds start [byte] ↔ buffer[start]? = some byte := by
    rw [Holds, List.singleton_prefix_iff_head?_eq_some, List.head?_drop, Array.getElem?_toList]
  rw [← List.singleton_append, holds_append, holdsOne]
  rfl

theorem Holds.eq_take {bytes : Bytes} (held : buffer.Holds start bytes) :
    bytes = (buffer.toList.drop start).take bytes.length :=
  List.prefix_iff_eq_take.mp held

/-- Bytes stand at a cursor past the end only if there are none of them. -/
theorem Holds.end_le {bytes : Bytes} (held : buffer.Holds start bytes)
    (positive : 0 < bytes.length) : start + bytes.length ≤ buffer.size := by
  have bounded : bytes.length ≤ (buffer.toList.drop start).length := List.IsPrefix.length_le held
  simp only [List.length_drop, Array.length_toList] at bounded
  omega

end Buffer

namespace Reader

variable {α β : Type}

/-- The reader succeeds at `start` with the given value and leaves the cursor at `stop`. -/
def Takes (reader : Reader α) (buffer : Buffer) (start : Nat) (value : α) (stop : Nat) : Prop :=
  (reader buffer start).result = .ok value ∧ (reader buffer start).offset = stop

variable {buffer : Buffer} {start stop : Nat}

/-! ## Sequences -/

@[simp] theorem takes_pure {value result : α} :
    (pure value : Reader α).Takes buffer start result stop ↔ value = result ∧ start = stop := by
  simp [Takes, pure, Reader.pure]

@[simp] theorem takes_bind {first : Reader α} {next : α → Reader β} {result : β} :
    (first >>= next).Takes buffer start result stop ↔
      ∃ value middle, first.Takes buffer start value middle ∧
        (next value).Takes buffer middle result stop := by
  cases outcome : (first buffer start).result with
  | error fault => simp [Takes, bind_of_error outcome, outcome]
  | ok value =>
      simp only [Takes, bind_of_ok outcome, outcome, Except.ok.injEq]
      constructor
      · rintro ⟨succeeded, stopped⟩
        exact ⟨value, _, ⟨rfl, rfl⟩, succeeded, stopped⟩
      · rintro ⟨_, _, ⟨rfl, rfl⟩, rest⟩
        exact rest

@[simp] theorem takes_offset {value : Nat} :
    offset.Takes buffer start value stop ↔ start = value ∧ start = stop := by
  simp [Takes, offset]

@[simp] theorem takes_remaining {value : Int} :
    remaining.Takes buffer start value stop ↔
      (buffer.size : Int) - start = value ∧ start = stop := by
  simp [Takes, remaining]

@[simp] theorem takes_fail {fault : Fault} {value : α} :
    ¬ (fail fault : Reader α).Takes buffer start value stop := by
  simp [Takes, fail]

@[simp] theorem takes_require {condition : Bool} {fault : Fault} {value : Unit} :
    (require condition fault).Takes buffer start value stop ↔
      condition = true ∧ start = stop := by
  cases condition with
  | false => simp [require]
  | true => simp [require, Takes, Reader.pure]

@[simp] theorem takes_note {event : Log.Event} {value : Unit} :
    (note event).Takes buffer start value stop ↔ start = stop := by
  simp [Takes, note]

@[simp] theorem takes_noteIf {condition : Bool} {event : Log.Event} {value : Unit} :
    (noteIf condition event).Takes buffer start value stop ↔ start = stop := by
  cases condition with
  | false => simp [noteIf, Takes, Reader.pure]
  | true => simp [noteIf]

/-! ## Bytes -/

theorem takes_byte {value : UInt8} :
    byte.Takes buffer start value stop ↔ buffer[start]? = some value ∧ stop = start + 1 := by
  cases found : buffer[start]? with
  | none => simp [Takes, byte, found]
  | some present =>
      simp only [Takes, byte, found, Except.ok.injEq, Option.some.injEq]
      exact and_congr_right fun _ => eq_comm

theorem takes_byte_bind {next : UInt8 → Reader β} {result : β} :
    (byte >>= next).Takes buffer start result stop ↔
      ∃ value, buffer[start]? = some value ∧ (next value).Takes buffer (start + 1) result stop := by
  rw [takes_bind]
  constructor
  · rintro ⟨value, middle, first, rest⟩
    obtain ⟨found, rfl⟩ := takes_byte.mp first
    exact ⟨value, found, rest⟩
  · rintro ⟨value, found, rest⟩
    exact ⟨value, _, takes_byte.mpr ⟨found, rfl⟩, rest⟩

theorem toList_extract (buffer : Buffer) (start count : Nat) :
    (buffer.extract start (start + count)).toList = (buffer.toList.drop start).take count := by
  rw [Array.toList_extract, List.extract_eq_take_drop, Nat.add_sub_cancel_left]

/-- A read of some bytes gives the bytes at the cursor. A read of none is left out, as it fails when
the cursor is past the end. -/
theorem takes_bytes {count : Nat} {value : Bytes} (positive : 0 < count) :
    (bytes count).Takes buffer start value stop ↔
      buffer.Holds start value ∧ value.length = count ∧ stop = start + count := by
  by_cases inside : start + count ≤ buffer.size
  · simp only [Takes, bytes, if_pos inside, Except.ok.injEq, toList_extract]
    constructor
    · rintro ⟨rfl, rfl⟩
      refine ⟨List.take_prefix _ _, ?_, rfl⟩
      rw [List.length_take, List.length_drop, Array.length_toList]
      omega
    · rintro ⟨held, rfl, rfl⟩
      exact ⟨held.eq_take.symm, rfl⟩
  · simp only [Takes, bytes, if_neg inside, reduceCtorEq, false_and, false_iff]
    rintro ⟨held, rfl, -⟩
    exact inside (held.end_le positive)

theorem length_of_takes_field {width : Int} {value : Bytes}
    (taken : (field width).Takes buffer start value stop) : (value.length : Int) = width := by
  unfold field at taken
  split at taken
  next => exact absurd taken takes_fail
  next nonneg =>
    simp only [Takes, bytes] at taken
    split at taken
    next inside =>
      obtain ⟨stored, -⟩ := taken
      rw [← Except.ok.inj stored, toList_extract, List.length_take, List.length_drop,
        Array.length_toList]
      omega
    next => cases taken.1

theorem field_of_nonneg {width : Int} (nonneg : 0 ≤ width) : field width = bytes width.toNat :=
  if_neg (by omega)

theorem lt_of_takes_unsigned {width : Int} {order : ByteOrder} {value : Nat}
    (taken : (unsigned width order).Takes buffer start value stop) :
    value < Bytes.capacity width.toNat := by
  obtain ⟨stored, _, storedTaken, taken⟩ := takes_bind.mp taken
  obtain ⟨rfl, -⟩ := takes_pure.mp taken
  have length := length_of_takes_field storedTaken
  rw [← length, Int.toNat_natCast]
  exact order.unsigned_lt stored

/-- An unsigned integer is read where its field of that width stands, and nowhere else. -/
theorem takes_unsigned {width : Int} {order : ByteOrder} {value : Nat} (positive : 1 ≤ width) :
    (unsigned width order).Takes buffer start value stop ↔
      value < Bytes.capacity width.toNat ∧
        buffer.Holds start (order.field width.toNat value) ∧ stop = start + width.toNat := by
  have someBytes : 0 < width.toNat := by omega
  simp only [unsigned, field_of_nonneg (Int.le_trans (by decide) positive), takes_bind, takes_pure,
    takes_bytes someBytes]
  constructor
  · rintro ⟨stored, middle, ⟨held, length, rfl⟩, rfl, rfl⟩
    rw [← length, order.field_unsigned]
    exact ⟨order.unsigned_lt stored, held, rfl⟩
  · rintro ⟨fits, held, rfl⟩
    exact ⟨_, _, ⟨held, order.length_field _ _, rfl⟩, order.unsigned_field fits, rfl⟩

end Reader

end LuaBytecode
