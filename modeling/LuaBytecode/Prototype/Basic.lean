import LuaBytecode.Constant
import LuaBytecode.Instruction.Basic

/-!
# Function prototypes

A decoded file is a tree of function prototypes: the main function at the root, and below each
function those defined inside it.
-/

set_option autoImplicit false

namespace LuaBytecode

/-- A local variable and the range of instructions in which it is live. -/
structure Local where
  name : String
  startpc : Int
  endpc : Int
  deriving DecidableEq, Repr

/-- What a prototype holds apart from the prototypes nested in it. The last three fields are the
debug information, each absent where it was left out. -/
structure FunctionBody where
  source : String
  lineDefined : Int
  lastLineDefined : Int
  upvalueCount : Int
  paramCount : Int
  vararg : Int
  maxStackSize : Int
  instructions : List Instruction
  constants : List Constant
  linePositions : Option (List Int)
  locals : Option (List Local)
  upvalues : Option (List String)
  deriving DecidableEq, Repr

/-- Whether the line positions were left out. -/
def FunctionBody.isStripped (body : FunctionBody) : Bool :=
  body.linePositions.isNone

structure Prototype where
  body : FunctionBody
  functions : List Prototype

namespace Prototype

mutual

/-- A prototype and all below it, each before those nested in it. -/
def walk : Prototype → List Prototype
  | ⟨body, functions⟩ => ⟨body, functions⟩ :: walkAll functions

def walkAll : List Prototype → List Prototype
  | [] => []
  | first :: rest => first.walk ++ walkAll rest

end

def count (prototype : Prototype) : Nat :=
  prototype.walk.length

end Prototype

end LuaBytecode
