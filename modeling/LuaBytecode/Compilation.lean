import LuaBytecode.Failure
import LuaBytecode.Log.Event
import LuaBytecode.Text.Utf8

/-!
# Compiling source text

The compiler itself is outside this library: it is given as a function from a source and the name of
its chunk to an answer, or it is missing. What is fixed here is how it is called and how its answers
are taken.
-/

set_option autoImplicit false

namespace LuaBytecode

inductive CompilerAnswer where
  | raised (text : String)
  -- The compiler came to an end with bytecode, or without it and with a complaint.
  | returned (bytecode : Option Bytes) (complaint : Text.Blob)
  deriving DecidableEq, Repr

/-- A compiler, if there is one. Its arguments are the source and the name of the chunk. -/
abbrev Compiler := Option (Bytes → Bytes → CompilerAnswer)

inductive CompileFailure where
  | missingCompiler
  | refused (text : String)
  deriving DecidableEq, Repr

def CompileFailure.report : CompileFailure → Report
  | .missingCompiler =>
    Report.make .compile "Compiling Lua source requires lupa>=2.0 with the lua51 runtime" none
  | .refused text => Report.make .compile text none

structure Compilation where
  result : Except CompileFailure Bytes
  -- The sources and chunk names that were handed to the compiler.
  calls : List (Bytes × Bytes)
  events : List Log.Event

/-- The text of a compiler's complaint; malformed bytes in it are replaced. -/
def complaintText : Text.Blob → String
  | .text value => value
  | .bytes value => Text.tolerant value

def defaultChunkName : String := "=stdin"

def Compilation.ofSource (compiler : Compiler) (source chunkName : Text.Blob) : Compilation :=
  match compiler with
  | none => ⟨.error .missingCompiler, [], []⟩
  | some compile =>
    let calls := [(source.toBytes, chunkName.toBytes)]
    match compile source.toBytes chunkName.toBytes with
    | .raised text => ⟨.error (.refused text), calls, []⟩
    | .returned none complaint => ⟨.error (.refused (complaintText complaint)), calls, []⟩
    | .returned (some bytecode) _ =>
      ⟨.ok bytecode, calls, [.compiled chunkName bytecode.length]⟩

end LuaBytecode
