import LuaBytecode.BitField
import LuaBytecode.Header.Reader
import LuaBytecode.Instruction.Opcode
import LuaBytecode.Json.Basic

/-!
# Instructions

An instruction word holds a six-bit operation code and an eight-bit operand A in its low fourteen
bits. The other eighteen bits are split as the operation's layout says.
-/

set_option autoImplicit false

namespace LuaBytecode

/-- A decoded instruction. The operand `b` is B, Bx or sBx as the layout says, and `c` is zero in
the layouts that have no C. The word it was decoded from is kept in `raw`. -/
structure Instruction where
  opcode : Int
  a : Int
  b : Int
  c : Int
  layout : Layout
  raw : Int
  deriving DecidableEq, Repr

namespace Instruction

def opcodeField : BitField := ⟨0, 6⟩

def aField : BitField := ⟨6, 8⟩

def cField : BitField := ⟨14, 9⟩

def bField : BitField := ⟨23, 9⟩

/-- The operand Bx, which covers the bits of both C and B. -/
def bxField : BitField := ⟨14, 18⟩

/-- What is added to a signed operand before it is stored. -/
def signedBias : Nat := 0x1ffff

/-- The instruction a word stands for. Bits past the low thirty-two are kept in `raw` only. -/
def ofWord (word : Int) : Instruction :=
  let opcode : Int := opcodeField.extract word
  let a : Int := aField.extract word
  match Layout.ofCode opcode with
  | .abx => ⟨opcode, a, bxField.extract word, 0, .abx, word⟩
  | .asbx => ⟨opcode, a, (bxField.extract word : Int) - signedBias, 0, .asbx, word⟩
  | .abc => ⟨opcode, a, bField.extract word, cField.extract word, .abc, word⟩

def ofBytes (order : ByteOrder) (bytes : Bytes) : Instruction :=
  ofWord (order.unsigned bytes)

def ofNamedOrder (orderName : String) (bytes : Bytes) : Except Fault Instruction :=
  match ByteOrder.ofName? orderName with
  | some order => .ok (ofBytes order bytes)
  | none => .error .unknownByteOrder

def operation? (instruction : Instruction) : Option Opcode :=
  Opcode.ofCode? instruction.opcode

def isKnown (instruction : Instruction) : Bool :=
  instruction.operation?.isSome

def mnemonic (instruction : Instruction) : String :=
  match instruction.operation? with
  | some operation => operation.mnemonic
  | none => s!"UNKNOWN_{instruction.opcode}"

def read (header : Header) : Reader Instruction := do
  let stored ← Reader.field header.widths.instruction
  let instruction := ofBytes header.order stored
  Reader.noteIf (!instruction.isKnown) (.unknownOpcode instruction.opcode)
  return instruction

/-! ## JSON -/

def operands (instruction : Instruction) : List Int :=
  [instruction.opcode, instruction.a, instruction.b, instruction.c]

def flatJson (instruction : Instruction) : List Json :=
  instruction.operands.map Json.integer

def objectJson (instruction : Instruction) : Json :=
  .object [("op", .integer instruction.opcode), ("A", .integer instruction.a),
    ("B", .integer instruction.b), ("C", .integer instruction.c)]

/-- A sequence of instructions in one array, as objects or as four numbers each. -/
def sequenceJson (objects : Bool) (instructions : List Instruction) : List Json :=
  if objects then instructions.map objectJson else instructions.flatMap flatJson

end Instruction

end LuaBytecode
