import LuaBytecode.Prototype.Reader

/-!
# Decoding a file

The whole of a bytecode file: its header, and the tree of prototypes that follows it. Bytes after
the tree are counted and otherwise ignored. Decoding is all or nothing: no part of a tree is given
when a later part fails.
-/

set_option autoImplicit false

namespace LuaBytecode

/-- A decoded file, with how many bytes its header and tree take and how many follow them. -/
structure DecodedFile where
  header : Header
  tree : Prototype
  options : Options
  consumed : Nat
  trailing : Nat

inductive DecodeFailure where
  | unknownOption (unknown : UnknownOption)
  | malformed (cause : Fault)
  deriving DecidableEq, Repr

def DecodeFailure.message : DecodeFailure → String
  | .unknownOption unknown => unknown.message
  | .malformed cause => cause.message

namespace DecodedFile

def read (options : Options) : Reader DecodedFile := do
  let header ← Header.read
  let tree ← Prototype.read header options 0
  let trailing ← Reader.remaining
  let consumed ← Reader.offset
  Reader.noteIf (trailing != 0) (.trailingBytes trailing.toNat consumed)
  Reader.note (.decoded tree.count consumed)
  return ⟨header, tree, options, consumed, trailing.toNat⟩

end DecodedFile

def decode (data : Bytes) (options : Options) : Run DecodedFile :=
  DecodedFile.read options data.toArray 0

/-- The outcome of some work, with what was noted on the way. -/
structure Noted (ε α : Type) where
  result : Except ε α
  events : List Log.Event

/-- Decodes the bytes of a file under options given as settings. An unknown setting is found before
anything is read. -/
def decodeWithSettings (data : Bytes) (settings : List (String × Json)) :
    Noted DecodeFailure DecodedFile :=
  match Options.ofSettings settings with
  | .error unknown => ⟨.error (.unknownOption unknown), []⟩
  | .ok options =>
    let run := decode data options
    ⟨run.result.mapError .malformed, run.events⟩

end LuaBytecode
