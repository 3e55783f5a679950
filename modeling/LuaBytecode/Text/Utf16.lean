/-!
# UTF-16 units

A character among the first 65536 is one unit of sixteen bits. Any other is two, a high and a low
surrogate, which share its code less 65536.
-/

set_option autoImplicit false

namespace LuaBytecode.Text

def utf16Units (char : Char) : List Nat :=
  let code := char.toNat
  if code < 0x10000 then [code]
  else [0xd800 + (code - 0x10000) / 0x400, 0xdc00 + (code - 0x10000) % 0x400]

end LuaBytecode.Text
