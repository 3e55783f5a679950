import LuaBytecode.DecodedFile

/-!
# Listings

The tree of prototypes as a text to be read by people: one block of lines for each prototype, each
before those nested in it, with an empty line between blocks. A listing fails exactly when it has to
show an integer constant that is nearer to no finite double, or a position of too many digits.
-/

set_option autoImplicit false

namespace LuaBytecode

def padded (width : Nat) (text : String) : String :=
  text ++ String.ofList (List.replicate (width - text.length) ' ')

/-- The item of a list at an index. A negative index counts from the end of the list. -/
def itemAt? {α : Type} (items : List α) (index : Int) : Option α :=
  if 0 ≤ index then items[index.toNat]?
  else if 0 ≤ items.length + index then items[(items.length + index).toNat]?
  else none

namespace Instruction

def operandText (instruction : Instruction) : String :=
  match instruction.layout with
  | .abc => s!"{instruction.a} {instruction.b} {instruction.c}"
  | .abx | .asbx => s!"{instruction.a} {instruction.b}"

/-- The index of the constant that the instruction names, unless it is past the last constant. -/
def constantIndex? (instruction : Instruction) (body : FunctionBody) : Option Int :=
  if (instruction.operation?.map Opcode.takesConstant).getD false ∧
      instruction.b < body.constants.length then
    some instruction.b
  else none

def constant? (instruction : Instruction) (body : FunctionBody) : Option Constant :=
  (instruction.constantIndex? body).bind (itemAt? body.constants)

/-- What a listing says after an instruction: where it jumps to, or the constant it names. -/
def remark (instruction : Instruction) (counter : Nat) (body : FunctionBody) :
    Except NumeralFailure (Option String) :=
  match instruction.layout with
  | .asbx =>
    (Number.integerText ((counter : Int) + instruction.b + 2)).map fun target =>
      some s!"to {target}"
  | .abc | .abx =>
    match instruction.constant? body with
    | none => .ok none
    | some constant => constant.listingText.map some

/-- The index of the line position of the instruction at the given program counter, unless it is
past the last line position. -/
def lineIndex? (counter : Nat) (lines : List Int) : Option Int :=
  if counter < lines.length then some counter else none

def lineText (counter : Nat) (body : FunctionBody) : String :=
  match body.linePositions.bind fun lines => (lineIndex? counter lines).bind (itemAt? lines) with
  | some line => toString line
  | none => "-"

/-- The line of an instruction. Program counters are shown counted from one. -/
def listingLine (instruction : Instruction) (counter : Nat) (body : FunctionBody) :
    Except NumeralFailure String := do
  let remark ← instruction.remark counter body
  let position ← Number.integerText (counter + 1)
  let line := lineText counter body
  let name := padded 10 instruction.mnemonic
  let shown := s!"\t{position}\t[{line}]\t{name}\t{instruction.operandText}"
  match remark with
  | none => return shown
  | some text => return s!"{shown}\t; {text}"

end Instruction

/-- The results of a function on the items of a list and their indices, counted from `index`, up to
the first failure. -/
def mapIndexed {ε α β : Type} (item : Nat → α → Except ε β) (index : Nat) :
    List α → Except ε (List β)
  | [] => .ok []
  | first :: rest => do
    let head ← item index first
    let tail ← mapIndexed item (index + 1) rest
    return head :: tail

/-- The line above the items of a list. -/
def sectionTitle (title : String) (count : Nat) : String :=
  s!"{title} ({count}):"

def Prototype.kind (isMain : Bool) : String :=
  if isMain then "main" else "function"

namespace FunctionBody

/-- The first line about a prototype, which says of which kind it is. -/
def heading (body : FunctionBody) (kind : String) : String :=
  let source := if body.source = "" then "?" else body.source
  s!"{kind} <{source}:{body.lineDefined},{body.lastLineDefined}> "
    ++ s!"({body.instructions.length} instructions)"

/-- The second line about a prototype, in which `functions` are nested. -/
def tally (body : FunctionBody) (functions : Nat) : String :=
  let more := if body.vararg = 0 then "" else "+"
  s!"{body.paramCount}{more} params, {body.maxStackSize} slots, {body.upvalueCount} upvalues, "
    ++ s!"{body.constants.length} constants, {functions} functions"

/-- The line of a constant. Constants are shown counted from one. -/
def constantLine (index : Nat) (constant : Constant) : Except NumeralFailure String := do
  let text ← constant.listingText
  return s!"\t{index + 1}\t{text}"

/-- The line of a local variable. Its instructions are shown counted from one, itself from zero. -/
def localLine (index : Nat) (entry : Local) : Except NumeralFailure String := do
  let startpc ← Number.integerText (entry.startpc + 1)
  let endpc ← Number.integerText (entry.endpc + 1)
  return s!"\t{index}\t{entry.name}\t{startpc}\t{endpc}"

def upvalueLine (index : Nat) (name : String) : String :=
  s!"\t{index}\t{name}"

def localLines (body : FunctionBody) : Except NumeralFailure (List String) :=
  match body.locals with
  | none => .ok []
  | some locals => do
    let lines ← mapIndexed localLine 0 locals
    return sectionTitle "locals" locals.length :: lines

def upvalueLines (body : FunctionBody) : List String :=
  match body.upvalues with
  | none => []
  | some upvalues => sectionTitle "upvalues" upvalues.length :: upvalues.mapIdx upvalueLine

/-- The lines of a prototype without those nested in it, of which there are `functions`. -/
def listingBlock (body : FunctionBody) (isMain : Bool) (functions : Nat) :
    Except NumeralFailure (List String) := do
  let code ← mapIndexed (fun counter instruction => instruction.listingLine counter body) 0
    body.instructions
  let constants ← mapIndexed constantLine 0 body.constants
  let locals ← body.localLines
  return body.heading (Prototype.kind isMain) :: body.tally functions :: code
    ++ sectionTitle "constants" body.constants.length :: constants ++ locals ++ body.upvalueLines

end FunctionBody

namespace Prototype

mutual

def listingLines (isMain : Bool) : Prototype → Except NumeralFailure (List String)
  | ⟨body, functions⟩ => do
    let own ← body.listingBlock isMain functions.length
    let nested ← nestedLines functions
    return own ++ nested

/-- The lines of several prototypes nested in another, each after an empty line. -/
def nestedLines : List Prototype → Except NumeralFailure (List String)
  | [] => .ok []
  | first :: rest => do
    let own ← first.listingLines false
    let others ← nestedLines rest
    return "" :: own ++ others

end

end Prototype

def Header.listingLine (header : Header) : String :=
  let widths := header.widths
  let integral := if header.integralNumbers then " (integral)" else ""
  s!"; Lua {header.versionText} bytecode, {header.order.name} endian, int={widths.int} "
    ++ s!"size_t={widths.sizeT} instruction={widths.instruction} number={widths.number}{integral}"

def DecodedFile.listing (result : DecodedFile) : Except NumeralFailure String := do
  let lines ← result.tree.listingLines true
  return String.intercalate "\n" (result.header.listingLine :: "" :: lines) ++ "\n"

end LuaBytecode
