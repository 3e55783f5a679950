import LuaBytecode.Header.Basic
import LuaBytecode.Log.Basic
import LuaBytecode.Text.Blob

/-!
# Events worth a log record

What the program notes while it works, as data; the record made of an event is the only place where
its severity, origin and wording are fixed.
-/

set_option autoImplicit false

namespace LuaBytecode.Log

/-- The extent of one function prototype in the file, with what was counted in it. -/
structure Span where
  source : String
  depth : Int
  start : Nat
  stop : Nat
  instructions : Nat
  constants : Nat
  functions : Nat
  deriving DecidableEq, Repr

inductive Event where
  | unexpectedVersion (header : Header)
  | headerRead (header : Header)
  | unknownOpcode (opcode : Int)
  | prototypeRead (span : Span)
  | trailingBytes (count : Nat) (offset : Nat)
  | decoded (prototypes : Nat) (bytes : Nat)
  | fileLoaded (bytes : Nat) (path : String)
  | compiled (chunkName : Text.Blob) (bytes : Nat)
  deriving DecidableEq, Repr

def Span.text (span : Span) : String :=
  s!"Chunk {Text.quoted span.source} (depth {span.depth}) at {span.start}..{span.stop}: "
    ++ s!"{span.instructions} instructions, {span.constants} constants, "
    ++ s!"{span.functions} functions"

def Event.record : Event → Record
  | .unexpectedVersion header =>
    ⟨Level.warning, "luadistil.header",
      s!"Unexpected bytecode version {header.versionText}, decoding as 5.1"⟩
  | .headerRead header => ⟨Level.debug, "luadistil.header", s!"Header: {header.summary}"⟩
  | .unknownOpcode opcode =>
    ⟨Level.debug, "luadistil.instructions",
      s!"Unknown opcode {opcode}, decoding with iABC layout"⟩
  | .prototypeRead span => ⟨Level.debug, "luadistil.chunk", span.text⟩
  | .trailingBytes count offset =>
    ⟨Level.warning, "luadistil.distiller",
      s!"{count} trailing bytes after the main chunk at offset {offset}"⟩
  | .decoded prototypes bytes =>
    ⟨Level.debug, "luadistil.distiller", s!"Decoded {prototypes} chunks from {bytes} bytes"⟩
  | .fileLoaded bytes path =>
    ⟨Level.debug, "luadistil.distiller", s!"Read {bytes} bytes from {path}"⟩
  | .compiled chunkName bytes =>
    ⟨Level.debug, "luadistil.compiler",
      s!"Compiled {chunkName.quoted} to {bytes} bytes of bytecode"⟩

end LuaBytecode.Log
