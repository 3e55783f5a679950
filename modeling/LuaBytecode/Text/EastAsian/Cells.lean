import LuaBytecode.Bytes

/-!
# Numbered cells

East Asian character sets are tables whose cells are numbered row by row. A set is kept as blocks of
consecutive cells; to write a character is to find its cell.
-/

set_option autoImplicit false

namespace LuaBytecode.Text.EastAsian

/-- Characters in consecutive cells, from the cell with the number `first` on. A point stands in an
empty cell. -/
structure CellBlock where
  first : Nat
  rows : List String
  deriving DecidableEq, Repr

/-- The filled part of a table. -/
abbrev CellTable := List CellBlock

/-- The place of a character in a list, where `index` is that of the first. -/
def placeIn? (char : Char) (index : Nat) : List Char → Option Nat
  | [] => none
  | first :: rest => if first = char then some index else placeIn? char (index + 1) rest

def CellBlock.chars (block : CellBlock) : List Char :=
  block.rows.flatMap String.toList

namespace CellTable

/-- The cell of a character. No table has a cell for a character of ASCII. -/
def cell? (table : CellTable) (char : Char) : Option Nat :=
  if char.toNat < 128 then none
  else table.findSome? fun block => placeIn? char block.first block.chars

/-- How many characters of a table satisfy a condition. -/
def count (table : CellTable) (condition : Char → Bool) : Nat :=
  (table.flatMap CellBlock.chars).countP fun char => char != '.' && condition char

end CellTable

/-! ## Bytes of cells -/

/-- The bytes of a cell in a table with rows of ninety-four, where `base` is the first byte of a row
and of a column. -/
def gridBytes (base cell : Nat) : Bytes :=
  [UInt8.ofNat (base + cell / 94), UInt8.ofNat (base + cell % 94)]

/-- The second byte of a cell that counts from 0x40 and leaves out the bytes from 0x7f on, as many
as `gap` says. -/
def gappedByte (gap place : Nat) : UInt8 :=
  UInt8.ofNat (if place < 63 then 0x40 + place else 0x40 + gap + place)

end LuaBytecode.Text.EastAsian
