import LuaBytecode.Bytes
import LuaBytecode.Text.Quoted

/-!
# Texts or bytes

An input that a caller may give either as characters or as raw bytes.
-/

set_option autoImplicit false

namespace LuaBytecode.Text

/-- A text, or the bytes of one. -/
inductive Blob where
  | text (value : String)
  | bytes (value : Bytes)
  deriving DecidableEq, Repr

namespace Blob

/-- The bytes of the input; a text is taken in UTF-8. -/
def toBytes : Blob → Bytes
  | .text value => Bytes.ofText value
  | .bytes value => value

def quoted : Blob → String
  | .text value => Text.quoted value
  | .bytes value => quotedBytes value

end Blob

end LuaBytecode.Text
