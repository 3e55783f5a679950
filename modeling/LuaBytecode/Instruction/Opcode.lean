/-!
# Operations

The operations of the virtual machine, the codes they are stored under and the layout of their
operands. A code outside the table is not an error: its operands are split like those of most
operations.
-/

set_option autoImplicit false

namespace LuaBytecode

/-- How the operand bits of an instruction word are split: into A, B and C, or into A and an
unsigned Bx or a signed sBx. -/
inductive Layout where
  | abc
  | abx
  | asbx
  deriving DecidableEq, Repr

def Layout.name : Layout → String
  | .abc => "iABC"
  | .abx => "iABx"
  | .asbx => "iAsBx"

def Layout.ofName? (name : String) : Option Layout :=
  [Layout.abc, .abx, .asbx].find? fun layout => layout.name == name

inductive Opcode where
  | move
  | loadK
  | loadBool
  | loadNil
  | getUpval
  | getGlobal
  | getTable
  | setGlobal
  | setUpval
  | setTable
  | newTable
  | selfCall
  | add
  | sub
  | mul
  | div
  | mod
  | pow
  | unm
  | negate
  | len
  | concat
  | jump
  | eq
  | lt
  | le
  | test
  | testSet
  | call
  | tailCall
  | ret
  | forLoop
  | forPrep
  | tForLoop
  | setList
  | close
  | closure
  | vararg
  deriving DecidableEq, Repr

namespace Opcode

/-- Every operation, in the order of the codes from zero. -/
def all : List Opcode := [
  .move, .loadK, .loadBool, .loadNil, .getUpval, .getGlobal, .getTable, .setGlobal, .setUpval,
  .setTable, .newTable, .selfCall, .add, .sub, .mul, .div, .mod, .pow, .unm, .negate, .len,
  .concat, .jump, .eq, .lt, .le, .test, .testSet, .call, .tailCall, .ret, .forLoop, .forPrep,
  .tForLoop, .setList, .close, .closure, .vararg]

def ofCode? : Int → Option Opcode
  | .ofNat code => all[code]?
  | .negSucc _ => none

def mnemonic : Opcode → String
  | .move => "MOVE"
  | .loadK => "LOADK"
  | .loadBool => "LOADBOOL"
  | .loadNil => "LOADNIL"
  | .getUpval => "GETUPVAL"
  | .getGlobal => "GETGLOBAL"
  | .getTable => "GETTABLE"
  | .setGlobal => "SETGLOBAL"
  | .setUpval => "SETUPVAL"
  | .setTable => "SETTABLE"
  | .newTable => "NEWTABLE"
  | .selfCall => "SELF"
  | .add => "ADD"
  | .sub => "SUB"
  | .mul => "MUL"
  | .div => "DIV"
  | .mod => "MOD"
  | .pow => "POW"
  | .unm => "UNM"
  | .negate => "NOT"
  | .len => "LEN"
  | .concat => "CONCAT"
  | .jump => "JMP"
  | .eq => "EQ"
  | .lt => "LT"
  | .le => "LE"
  | .test => "TEST"
  | .testSet => "TESTSET"
  | .call => "CALL"
  | .tailCall => "TAILCALL"
  | .ret => "RETURN"
  | .forLoop => "FORLOOP"
  | .forPrep => "FORPREP"
  | .tForLoop => "TFORLOOP"
  | .setList => "SETLIST"
  | .close => "CLOSE"
  | .closure => "CLOSURE"
  | .vararg => "VARARG"

def layout : Opcode → Layout
  | .loadK | .getGlobal | .setGlobal | .closure => .abx
  | .jump | .forLoop | .forPrep => .asbx
  | _ => .abc

/-- Whether the second operand of the operation is the index of a constant. -/
def takesConstant : Opcode → Bool
  | .loadK | .getGlobal | .setGlobal => true
  | _ => false

end Opcode

/-- The layout for any operation code; a code that stands for no operation has three operands. -/
def Layout.ofCode (code : Int) : Layout :=
  match Opcode.ofCode? code with
  | some operation => operation.layout
  | none => .abc

end LuaBytecode
