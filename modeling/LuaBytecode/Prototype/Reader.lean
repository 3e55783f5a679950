import LuaBytecode.Options
import LuaBytecode.Prototype.Basic

/-!
# Reading function prototypes

The fields of a prototype are read in a fixed order, the nested prototypes between the constants and
the debug information. Debug information that is to be left out is read all the same, so that the
options never move the cursor. Prototypes deeper than the limit are refused before anything of them
is read.
-/

set_option autoImplicit false

namespace LuaBytecode

def Local.read (header : Header) : Reader Local := do
  let name ← header.nameField
  let startpc ← header.integerField
  let endpc ← header.integerField
  return ⟨name, startpc, endpc⟩

namespace FunctionBody

/-- Reads what stands before the nested prototypes. -/
def readFront (header : Header) : Reader FunctionBody := do
  let source ← header.nameField
  let lineDefined ← header.integerField
  let lastLineDefined ← header.integerField
  let upvalueCount ← Reader.byte
  let paramCount ← Reader.byte
  let vararg ← Reader.byte
  let maxStackSize ← Reader.byte
  let instructions ← header.counted (Instruction.read header)
  let constants ← header.counted (Constant.read header)
  return {
    source, lineDefined, lastLineDefined
    upvalueCount := upvalueCount.toNat
    paramCount := paramCount.toNat
    vararg := vararg.toNat
    maxStackSize := maxStackSize.toNat
    instructions, constants
    linePositions := none
    locals := none
    upvalues := none }

/-- Reads the debug information, which stands after the nested prototypes. -/
def readBack (header : Header) (keep : Bool) (front : FunctionBody) : Reader FunctionBody := do
  let linePositions ← header.counted header.integerField
  let locals ← header.counted (Local.read header)
  let upvalues ← header.counted header.nameField
  return { front with
    linePositions := if keep then some (linePositions.map Int.ofNat) else none
    locals := if keep then some locals else none
    upvalues := if keep then some upvalues else none }

end FunctionBody

namespace Prototype

/-- Reads a prototype that may have `levels - 1` levels of prototypes below it, and lies `depth`
levels below the root. -/
def readWithin (header : Header) (options : Options) :
    (levels : Nat) → (depth : Int) → Reader Prototype
  | 0, _ => do
    let start ← Reader.offset
    Reader.fail (.tooDeep start)
  | levels + 1, depth => do
    let start ← Reader.offset
    let front ← FunctionBody.readFront header
    let functions ← header.counted (readWithin header options levels (depth + 1))
    let body ← front.readBack header (!options.stripDebugging)
    let stop ← Reader.offset
    Reader.note (.prototypeRead {
      source := body.source
      depth, start, stop
      instructions := body.instructions.length
      constants := body.constants.length
      functions := functions.length })
    return { body, functions }

/-- Reads a prototype that lies `depth` levels below the root. A caller may count from a root of its
own, so that the depth is negative and more levels than usual are allowed. -/
def read (header : Header) (options : Options) (depth : Int) : Reader Prototype :=
  readWithin header options ((nestingLimit : Int) + 1 - depth).toNat depth

end Prototype

end LuaBytecode
