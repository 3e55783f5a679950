import LuaBytecode.Header.Basic
import LuaBytecode.Text.Numeral

/-!
# Failures

Every way in which decoding can fail, as a cause with its particulars, and the wording of each. A
failure that belongs to a place in the file carries the offset of that place and says so at the end
of its message.
-/

set_option autoImplicit false

namespace LuaBytecode

inductive Category where
  | general
  | format
  | header
  | truncated
  | unknownConstant
  | nesting
  | compile
  | misuse
  deriving DecidableEq, Repr

namespace Category

/-- Whether failures of the category are failures of this library, rather than of its caller. -/
def isGeneral (category : Category) : Bool :=
  category != .misuse

/-- Whether failures of the category say that the bytes do not follow the file format. -/
def isFormat : Category → Bool
  | .format | .header | .truncated | .unknownConstant | .nesting => true
  | .general | .compile | .misuse => false

end Category

structure Report where
  category : Category
  text : String
  offset : Option Int
  tag : Option Int
  deriving DecidableEq, Repr

namespace Report

/-- A report of the given category. Only a failure of the file format has a place in the file. -/
def make (category : Category) (text : String) (offset : Option Int) : Report :=
  ⟨category, text, if category.isFormat then offset else none, none⟩

def ofUnknownConstant (tag : Int) (offset : Option Int) : Report :=
  ⟨.unknownConstant, s!"Unknown constant type: {tag}", offset, some tag⟩

/-- The wording of a report, with the place at the end if there is one. -/
def message (report : Report) : String :=
  match report.offset with
  | none => report.text
  | some offset => s!"{report.text} (at offset {offset})"

end Report

/-- The deepest nesting of function prototypes, counted from zero at the root. -/
def nestingLimit : Nat := 200

/-- The cause of a failed read. Every cause but the last three is a fact about the data, and carries
the offset at which it was found. -/
inductive Fault where
  | endOfData (offset : Nat)
  | shortData (wanted : Nat) (available : Int) (offset : Nat)
  | badSignature (found : Bytes) (offset : Nat)
  | badEndianness (flag : Nat) (offset : Nat)
  | zeroWidth (field : WidthField) (offset : Nat)
  | unknownConstant (tag : Nat) (offset : Nat)
  | tooDeep (offset : Nat)
  -- More bytes were wanted than are available, and their number has too many digits to be told.
  | unwritableLength
  | negativeLength
  | unknownByteOrder
  deriving DecidableEq, Repr

namespace Fault

def category : Fault → Category
  | .endOfData _ | .shortData _ _ _ => .truncated
  | .badSignature _ _ | .badEndianness _ _ | .zeroWidth _ _ => .header
  | .unknownConstant _ _ => .unknownConstant
  | .tooDeep _ => .nesting
  | .unwritableLength | .negativeLength | .unknownByteOrder => .misuse

def offset? : Fault → Option Nat
  | .endOfData offset => some offset
  | .shortData _ _ offset => some offset
  | .badSignature _ offset => some offset
  | .badEndianness _ offset => some offset
  | .zeroWidth _ offset => some offset
  | .unknownConstant _ offset => some offset
  | .tooDeep offset => some offset
  | .unwritableLength | .negativeLength | .unknownByteOrder => none

def text : Fault → String
  | .endOfData _ => "Unexpected end of data reading 1 byte"
  | .shortData wanted available _ =>
    s!"Unexpected end of data reading {wanted} bytes ({available} available)"
  | .badSignature found _ => s!"Not a Lua bytecode file: bad signature {Text.quotedBytes found}"
  | .badEndianness flag _ => s!"Invalid endianness flag {flag}"
  | .zeroWidth field _ => s!"Declared width of {field.name} is zero"
  | .unknownConstant tag _ => s!"Unknown constant type: {tag}"
  | .tooDeep _ => s!"Function nesting exceeds {nestingLimit} levels"
  | .unwritableLength => Text.tooManyDigits
  | .negativeLength => "length must be non-negative"
  | .unknownByteOrder => "byteorder must be either 'little' or 'big'"

def report : Fault → Report
  | .unknownConstant tag offset => Report.ofUnknownConstant tag (some offset)
  | fault => Report.make fault.category fault.text (fault.offset?.map Int.ofNat)

def message (fault : Fault) : String :=
  fault.report.message

end Fault

end LuaBytecode
