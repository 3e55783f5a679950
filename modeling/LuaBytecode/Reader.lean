import LuaBytecode.Failure
import LuaBytecode.Log.Event

/-!
# Readers

A reader takes a buffer and a cursor into it. It gives a value or a fault, and in both cases the
cursor it left and the events it noted, so that a run can go on after a failed read. The buffer
itself is never part of the answer and cannot change.
-/

set_option autoImplicit false

namespace LuaBytecode

abbrev Buffer := Array UInt8

/-- The outcome of a read: the value, or the cause why there is none, the cursor after the read in
either case, and what was noted, in order. -/
structure Run (α : Type) where
  result : Except Fault α
  offset : Nat
  events : List Log.Event

/-- A way to read a value of type `α` at a cursor. -/
def Reader (α : Type) : Type :=
  Buffer → Nat → Run α

namespace Reader

variable {α β : Type}

protected def pure (value : α) : Reader α := fun _ offset =>
  ⟨.ok value, offset, []⟩

/-- Reads one value and then, unless that failed, what follows from it. -/
protected def bind (first : Reader α) (next : α → Reader β) : Reader β := fun buffer offset =>
  let before := first buffer offset
  match before.result with
  | .error fault => ⟨.error fault, before.offset, before.events⟩
  | .ok value =>
    let after := next value buffer before.offset
    ⟨after.result, after.offset, before.events ++ after.events⟩

instance : Monad Reader where
  pure := Reader.pure
  bind := Reader.bind

/-! ## Laws of sequencing -/

/-- What follows a successful read starts at the cursor it left, and adds to what it noted. -/
theorem bind_of_ok {first : Reader α} {buffer : Buffer} {offset : Nat} {value : α}
    (succeeded : (first buffer offset).result = .ok value) (next : α → Reader β) :
    (first >>= next) buffer offset =
      let before := first buffer offset
      let after := next value buffer before.offset
      ⟨after.result, after.offset, before.events ++ after.events⟩ := by
  show Reader.bind first next buffer offset = _
  simp only [Reader.bind, succeeded]

/-- Nothing follows a failed read. -/
theorem bind_of_error {first : Reader α} {buffer : Buffer} {offset : Nat} {fault : Fault}
    (failed : (first buffer offset).result = .error fault) (next : α → Reader β) :
    (first >>= next) buffer offset =
      let before := first buffer offset
      ⟨.error fault, before.offset, before.events⟩ := by
  show Reader.bind first next buffer offset = _
  simp only [Reader.bind, failed]

protected theorem bind_pure (reader : Reader α) :
    Reader.bind reader Reader.pure = reader := by
  funext buffer offset
  rcases run : reader buffer offset with ⟨result, after, events⟩
  cases result <;> simp [Reader.bind, Reader.pure, run]

protected theorem pure_bind (value : α) (next : α → Reader β) :
    Reader.bind (Reader.pure value) next = next value := by
  funext buffer offset
  simp [Reader.bind, Reader.pure]

protected theorem bind_assoc {γ : Type} (reader : Reader α) (next : α → Reader β)
    (last : β → Reader γ) :
    Reader.bind (Reader.bind reader next) last =
      Reader.bind reader (fun value => Reader.bind (next value) last) := by
  funext buffer offset
  rcases first : reader buffer offset with ⟨result, after, events⟩
  cases result with
  | error fault => simp [Reader.bind, first]
  | ok value =>
    rcases second : next value buffer after with ⟨outcome, stop, noted⟩
    cases outcome <;> simp [Reader.bind, first, second]

instance : LawfulMonad Reader :=
  LawfulMonad.mk' Reader Reader.bind_pure Reader.pure_bind Reader.bind_assoc

/-! ## Reading -/

def offset : Reader Nat := fun _ offset =>
  ⟨.ok offset, offset, []⟩

/-- How many bytes lie after the cursor. The number is negative if the cursor is past the end. -/
def remaining : Reader Int := fun buffer offset =>
  ⟨.ok ((buffer.size : Int) - offset), offset, []⟩

def fail (fault : Fault) : Reader α := fun _ offset =>
  ⟨.error fault, offset, []⟩

def require (condition : Bool) (fault : Fault) : Reader Unit :=
  if condition then Reader.pure () else fail fault

def note (event : Log.Event) : Reader Unit := fun _ offset =>
  ⟨.ok (), offset, [event]⟩

def noteIf (condition : Bool) (event : Log.Event) : Reader Unit :=
  if condition then note event else Reader.pure ()

def byte : Reader UInt8 := fun buffer offset =>
  match buffer[offset]? with
  | some value => ⟨.ok value, offset + 1, []⟩
  | none => ⟨.error (.endOfData offset), offset, []⟩

/-- The fault of a read of more bytes than lie after the cursor. -/
def shortage (count : Nat) (buffer : Buffer) (offset : Nat) : Fault :=
  if Text.isWritable count then .shortData count ((buffer.size : Int) - offset) offset
  else .unwritableLength

/-- Reads the given number of bytes, or none at all. -/
def bytes (count : Nat) : Reader Bytes := fun buffer offset =>
  if offset + count ≤ buffer.size then
    ⟨.ok (buffer.extract offset (offset + count)).toList, offset + count, []⟩
  else ⟨.error (shortage count buffer offset), offset, []⟩

/-- Reads the bytes of a field of the given width, which must not be negative. -/
def field (width : Int) : Reader Bytes :=
  if width < 0 then fail .negativeLength else bytes width.toNat

def unsigned (width : Int) (order : ByteOrder) : Reader Nat := do
  let stored ← field width
  return order.unsigned stored

/-- Reads an unsigned integer in a byte order that a caller named. The name is looked at only after
the bytes have been read. -/
def namedUnsigned (width : Int) (orderName : String) : Reader Nat := do
  let stored ← field width
  match ByteOrder.ofName? orderName with
  | some order => return order.unsigned stored
  | none => fail .unknownByteOrder

/-- Reads the given number of items, one after the other, up to the first that fails. -/
def items (item : Reader α) : Nat → Reader (List α)
  | 0 => Reader.pure []
  | count + 1 => do
    let first ← item
    let rest ← items item count
    return first :: rest

end Reader

end LuaBytecode
