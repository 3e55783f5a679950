import LuaBytecode.Bytes

/-!
# Tolerant reading of UTF-8

The text of bytes that should be UTF-8 but need not be: a replacement character stands where the
bytes are malformed.
-/

set_option autoImplicit false

namespace LuaBytecode.Text

/-- The start of a multi-byte character: how many bytes are missing, the bits read so far, and the
range in which the next byte must lie. -/
structure Pending where
  missing : Nat
  bits : Nat
  least : Nat
  greatest : Nat
  deriving DecidableEq, Repr

inductive Lead where
  | char (char : Char)
  | start (pending : Pending)
  | invalid
  deriving DecidableEq, Repr

/-- The meaning of a byte where a character may begin. The ranges for the next byte leave out
overlong forms, surrogates and codes past the last code point. -/
def Lead.ofByte (byte : UInt8) : Lead :=
  let code := byte.toNat
  if code < 0x80 then .char (Char.ofNat code)
  else if code < 0xc2 then .invalid
  else if code < 0xe0 then .start ⟨1, code - 0xc0, 0x80, 0xbf⟩
  else if code = 0xe0 then .start ⟨2, 0, 0xa0, 0xbf⟩
  else if code = 0xed then .start ⟨2, 0xd, 0x80, 0x9f⟩
  else if code < 0xf0 then .start ⟨2, code - 0xe0, 0x80, 0xbf⟩
  else if code = 0xf0 then .start ⟨3, 0, 0x90, 0xbf⟩
  else if code < 0xf4 then .start ⟨3, code - 0xf0, 0x80, 0xbf⟩
  else if code = 0xf4 then .start ⟨3, 4, 0x80, 0x8f⟩
  else .invalid

def replacement : Char := '\ufffd'

/-- Reads UTF-8 in the middle of a text. Each longest part that could have begun a character, but
does not, becomes one replacement character. -/
def tolerantChars : Option Pending → Bytes → List Char
  | none, [] => []
  | some _, [] => [replacement]
  | none, byte :: rest =>
    match Lead.ofByte byte with
    | .char char => char :: tolerantChars none rest
    | .start pending => tolerantChars (some pending) rest
    | .invalid => replacement :: tolerantChars none rest
  | some pending, byte :: rest =>
    if pending.least ≤ byte.toNat ∧ byte.toNat ≤ pending.greatest then
      let bits := pending.bits * 64 + byte.toNat % 64
      if pending.missing = 1 then Char.ofNat bits :: tolerantChars none rest
      else tolerantChars (some ⟨pending.missing - 1, bits, 0x80, 0xbf⟩) rest
    else
      match Lead.ofByte byte with
      | .char char => replacement :: char :: tolerantChars none rest
      | .start next => replacement :: tolerantChars (some next) rest
      | .invalid => replacement :: replacement :: tolerantChars none rest

def tolerant (bytes : Bytes) : String :=
  String.ofList (tolerantChars none bytes)

end LuaBytecode.Text
