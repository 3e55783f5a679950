import LuaBytecode.Text.EastAsian.Big5
import LuaBytecode.Text.EastAsian.Gb2312
import LuaBytecode.Text.EastAsian.Hkscs

/-!
# Chinese codes

The bytes of a character in the Chinese encodings. The simplified standard set was extended twice:
first by all ideographs that Unicode had at the time, then by all of Unicode. The traditional set
was extended by makers and by Hong Kong.
-/

set_option autoImplicit false

namespace LuaBytecode.Text.EastAsian

def simplified? (char : Char) : Option Bytes :=
  (gb2312Cells.cell? char).map (gridBytes 0xa1)

/-! ## The first extension -/

/-- The bytes of a cell in a table with rows of a hundred and ninety. -/
def wideRowBytes (cell : Nat) : Bytes :=
  [UInt8.ofNat (0x81 + cell / 190), gappedByte 1 (cell % 190)]

/-- Whether a character is one of the ideographs that the first extension takes over. -/
def isIdeograph (char : Char) : Bool :=
  decide (0x4e00 ≤ char.toNat ∧ char.toNat ≤ 0x9fa5)

def ideographIndex (char : Char) : Nat :=
  let standard := gb2312Cells.count fun other =>
    isIdeograph other && decide (other.toNat < char.toNat)
  char.toNat - 0x4e00 - standard

/-- The bytes of an ideograph that is not in the standard set: in the rows before those of the set,
then in the left parts of the rows after its signs. -/
def ideographBytes (index : Nat) : Bytes :=
  if index < 32 * 190 then wideRowBytes index
  else
    let later := index - 32 * 190
    [UInt8.ofNat (0xaa + later / 96), gappedByte 1 (later % 96)]

/-- The middle point of the standard set, in whose cell the extensions have another one. -/
def standardMiddlePoint : Char := '・'

def extended? (char : Char) : Option Bytes :=
  if char = standardMiddlePoint then none
  else
    ((gbkSigns.cell? char).map wideRowBytes)
      <|> simplified? char
      <|> (if isIdeograph char then some (ideographBytes (ideographIndex char)) else none)

/-! ## The second extension -/

/-- The runs of empty cells that characters for private use fill in order, each with its first cell
and its length. Where the second extension has put a character of its own, the one for private use
has no cell. -/
def privateRuns : List (Nat × Nat) := [
  (6376, 6), (6432, 2), (6444, 2), (6458, 2), (6829, 11), (7022, 8), (7150, 8), (7182, 7),
  (7201, 2), (7208, 1), (7211, 9), (7349, 15), (7397, 13), (7495, 11), (7533, 1), (7536, 1),
  (7538, 4), (7579, 21), (7624, 1), (7627, 1), (7629, 3), (7672, 13), (7686, 13), (7775, 15),
  (16525, 5), (23766, 80)]

/-- The cell at a place of several runs. -/
def cellInRuns? (place : Nat) : List (Nat × Nat) → Option Nat
  | [] => none
  | (first, length) :: rest =>
    if place < length then some (first + place) else cellInRuns? (place - length) rest

/-- Whether the second extension has a character of its own in a cell. -/
def hasOwnSign (cell : Nat) : Bool :=
  gb18030Signs.any fun block =>
    decide (block.first ≤ cell) && ((block.chars[cell - block.first]?).getD '.' != '.')

/-- The code of a character for private use: three areas of their own, then the empty cells. -/
def privateUse? (char : Char) : Option Bytes :=
  let code := char.toNat
  if code < 0xe000 then none
  else if code < 0xe234 then
    some [UInt8.ofNat (0xaa + (code - 0xe000) / 94), UInt8.ofNat (0xa1 + (code - 0xe000) % 94)]
  else if code < 0xe4c6 then
    some [UInt8.ofNat (0xf8 + (code - 0xe234) / 94), UInt8.ofNat (0xa1 + (code - 0xe234) % 94)]
  else if code < 0xe766 then
    some [UInt8.ofNat (0xa1 + (code - 0xe4c6) / 96), gappedByte 1 ((code - 0xe4c6) % 96)]
  else
    (cellInRuns? (code - 0xe766) privateRuns).bind fun cell =>
      if hasOwnSign cell then none else some (wideRowBytes cell)

/-- The dash of the standard set, which the first extension puts elsewhere. -/
def movedDash : Char := '―'

/-- The number of characters for private use below a code that have a cell. -/
def privateCount (code : Nat) : Nat :=
  (List.range (min code 0xe865 - 0xe000)).countP fun place =>
    (privateUse? (Char.ofNat (0xe000 + place))).isSome

/-- The number of characters below the given one that have a code of two bytes. -/
def twoByteCount (char : Char) : Nat :=
  let code := char.toNat
  let earlier := fun other : Char => decide (other.toNat < code)
  let standard := gb2312Cells.count fun other =>
    earlier other && !isIdeograph other && other != standardMiddlePoint
  let first := gbkSigns.count fun other => earlier other && other != movedDash
  let second := gb18030Signs.count earlier
  standard + first + second + min (code - 0x4e00) (0x9fa6 - 0x4e00) + privateCount code

/-- The number of a character among those with a code of four bytes. -/
def fourByteIndex (char : Char) : Nat :=
  let code := char.toNat
  if 0x10000 ≤ code then 189000 + (code - 0x10000)
  else
    let surrogates := if code < 0xe000 then 0 else 0x800
    code - 0x80 - surrogates - twoByteCount char

/-- The bytes of a number in which the second and fourth bytes are digits. -/
def fourBytes (index : Nat) : Bytes :=
  [UInt8.ofNat (0x81 + index / 12600), UInt8.ofNat (0x30 + index / 1260 % 10),
    UInt8.ofNat (0x81 + index / 10 % 126), UInt8.ofNat (0x30 + index % 10)]

/-- The code of a character in the second extension, which has all characters. -/
def universal (char : Char) : Bytes :=
  ((extended? char)
    <|> ((gb18030Signs.cell? char).map wideRowBytes)
    <|> privateUse? char).getD (fourBytes (fourByteIndex char))

/-! ## Traditional sets -/

/-- The bytes of a cell in a table with rows of a hundred and fifty-seven. -/
def traditionalBytes (cell : Nat) : Bytes :=
  [UInt8.ofNat (0x81 + cell / 157), gappedByte 34 (cell % 157)]

def traditional? (char : Char) : Option Bytes :=
  (big5Cells.cell? char).map traditionalBytes

/-- The cells in which Windows has other characters than the traditional set, or further ones. -/
def windowsTraditional : CellTable := [
  ⟨5029, ["‧"]⟩, ⟨5038, ["﹑"]⟩, ⟨5120, ["¯"]⟩, ⟨5153, ["～"]⟩, ⟨5168, ["⊕⊙"]⟩,
  ⟨5180, ["／＼∕﹨.￥.￠￡"]⟩, ⟨5465, ["€"]⟩,
  ⟨18956, ["碁銹裏墻恒粧嫺╔╦╗╠╬╣╚╩╝╒╤╕...╘╧╛╓╥╖╟╫╢╙╨╜║.....▓"]⟩]

def windowsTraditional? (char : Char) : Option Bytes :=
  ((windowsTraditional.cell? char).map traditionalBytes) <|> traditional? char

/-- The code of a character in the set of Hong Kong, which puts some of the traditional set's signs
elsewhere. -/
def hongKong? (char : Char) : Option Bytes :=
  ((hkscs.cell? char).map traditionalBytes) <|> traditional? char

/-- The cells of characters that are made of two. -/
def hongKongCombined : List ((Char × Char) × Nat) :=
  [(('Ê', '\u0304'), 1133), (('Ê', '\u030c'), 1135), (('ê', '\u0304'), 1164),
    (('ê', '\u030c'), 1166)]

end LuaBytecode.Text.EastAsian
