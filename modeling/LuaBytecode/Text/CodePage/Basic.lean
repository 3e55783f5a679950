import LuaBytecode.Bytes

/-!
# Code pages

A code page gives each of the 256 bytes a character, or none. To write a character is to find its
byte; where two bytes have the same character the later one is taken.
-/

set_option autoImplicit false

namespace LuaBytecode.Text

/-- A character for each byte, in the order of the bytes. -/
structure CodePage where
  chars : List Char
  deriving DecidableEq, Repr

namespace CodePage

/-- The character that stands in a page for no character at all. -/
def absent : Char := '\ufffe'

def ofRows (rows : List String) : CodePage :=
  ⟨rows.flatMap String.toList⟩

/-- The page whose first half is ASCII, with the second half in rows. -/
def overAscii (rows : List String) : CodePage :=
  ⟨(List.range 128).map Char.ofNat ++ rows.flatMap String.toList⟩

/-- The last index at which a list has an item, where `index` is that of the first item. -/
def lastIndex? (item : Char) (index : Nat) : List Char → Option Nat
  | [] => none
  | first :: rest =>
    match lastIndex? item (index + 1) rest with
    | some later => some later
    | none => if first = item then some index else none

def byte? (page : CodePage) (char : Char) : Option UInt8 :=
  if char = absent then none else (lastIndex? char 0 page.chars).map UInt8.ofNat

end CodePage

end LuaBytecode.Text
