import LuaBytecode.Text.Quoted

/-!
# Texts with escaped characters

Two ways to write any text with few characters. One keeps only what is printable in ASCII, the other
all characters below 256; the rest is written by its code after a backslash.
-/

set_option autoImplicit false

namespace LuaBytecode.Text.Escaped

/-- A character that is shown as itself if it is printable in ASCII. -/
def printableChar (char : Char) : List Char :=
  if char = '\\' then ['\\', '\\']
  else if char = '\n' then ['\\', 'n']
  else if char = '\r' then ['\\', 'r']
  else if char = '\t' then ['\\', 't']
  else if 0x20 ≤ char.toNat ∧ char.toNat < 0x7f then [char]
  else escapedCode char.toNat

/-- A character that is shown as itself if it is below 256. -/
def byteChar (char : Char) : List Char :=
  if char.toNat < 256 then [char] else escapedCode char.toNat

/-- The bytes of a text in which only the printable characters of ASCII stand for themselves. -/
def encodePrintable (text : String) : Bytes :=
  Bytes.ofChars (text.toList.flatMap printableChar)

/-- The bytes of a text in which all characters below 256 stand for themselves. -/
def encodeBytes (text : String) : Bytes :=
  Bytes.ofChars (text.toList.flatMap byteChar)

end LuaBytecode.Text.Escaped
