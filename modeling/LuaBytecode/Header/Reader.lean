import LuaBytecode.Reader

/-!
# Reading headers and the fields they govern

A header is checked while it is read, and the first defect met decides the outcome. Once read, it
fixes how integers, sizes, strings and counted lists are stored.
-/

set_option autoImplicit false

namespace LuaBytecode.Header

def read : Reader Header := do
  let start ← Reader.offset
  let found ← Reader.bytes signature.length
  Reader.require (found == signature) (.badSignature found start)
  let version ← Reader.byte
  let format ← Reader.byte
  let endianness ← Reader.byte
  Reader.require (endianness == 0 || endianness == 1)
    (.badEndianness endianness.toNat (start + 6))
  let int ← Reader.byte
  let sizeT ← Reader.byte
  let instruction ← Reader.byte
  let number ← Reader.byte
  let widths : Widths := ⟨int.toNat, sizeT.toNat, instruction.toNat, number.toNat⟩
  match widths.firstZero? with
  | some field => Reader.fail (.zeroWidth field start)
  | none =>
    let integral ← Reader.byte
    let header : Header :=
      ⟨version.toNat, format.toNat, endianness.toNat, widths, integral.toNat⟩
    Reader.noteIf (header.version != supportedVersion) (.unexpectedVersion header)
    Reader.note (.headerRead header)
    return header

variable {α : Type}

/-- Reads an integer field, such as a count, a line number or a program counter. -/
def integerField (header : Header) : Reader Nat :=
  Reader.unsigned header.widths.int header.order

def sizeField (header : Header) : Reader Nat :=
  Reader.unsigned header.widths.sizeT header.order

/-- Reads a string. Its stored length counts a closing zero byte, and the string ends before the
first zero byte it holds. A length of zero stands for an absent string. -/
def stringField (header : Header) : Reader Bytes := do
  let length ← header.sizeField
  if length = 0 then
    return []
  else
    let stored ← Reader.bytes length
    return Bytes.beforeZero stored

def nameField (header : Header) : Reader String := do
  let stored ← header.stringField
  return Bytes.latin1 stored

def counted (header : Header) (item : Reader α) : Reader (List α) := do
  let count ← header.integerField
  Reader.items item count

end LuaBytecode.Header
