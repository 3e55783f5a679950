import LuaBytecode.Text.EastAsian.JisX0208
import LuaBytecode.Text.EastAsian.JisX0212
import LuaBytecode.Text.EastAsian.JisX0213
import LuaBytecode.Text.EastAsian.Windows31J

/-!
# Japanese codes

The bytes of a character in the Japanese encodings. They share the standard set and differ in how
they make room for it beside the single bytes of ASCII and of the narrow kana, and in which further
sets they have.
-/

set_option autoImplicit false

namespace LuaBytecode.Text.EastAsian

def narrowKana? (char : Char) : Option UInt8 :=
  let code := char.toNat
  if 0xff61 ≤ code ∧ code ≤ 0xff9f then some (UInt8.ofNat (code - 0xfec0)) else none

/-- The byte of the two characters that the Japanese set of single bytes has in place of the
backslash and the tilde. -/
def yenOrOverline? (char : Char) : Option UInt8 :=
  if char = '¥' then some 0x5c
  else if char = '‾' then some 0x7e
  else none

/-! ## Two bytes with shifted rows -/

/-- The bytes of a cell where two rows share one first byte, so that a second byte tells them apart
and the first bytes leave the narrow kana out. -/
def shiftedBytes (cell : Nat) : Bytes :=
  let row := cell / 94
  let lead := 0x81 + row / 2
  let column := cell % 94
  [UInt8.ofNat (if lead < 0xa0 then lead else lead + 0x40),
    if row % 2 = 0 then gappedByte 1 column else UInt8.ofNat (0x9f + column)]

/-- The code of a character where rows are shifted. -/
def shiftJis? (char : Char) : Option Bytes :=
  ((yenOrOverline? char).map ([·]))
    <|> ((narrowKana? char).map ([·]))
    <|> ((jisX0208.cell? char).map shiftedBytes)

/-- The cells of the standard set that Windows also uses for a second character. -/
def windowsDoubles : List (Char × Nat) :=
  [('∥', 33), ('－', 60), ('～', 32), ('￠', 80), ('￡', 81), ('￢', 137)]

/-- The code of a character for private use: in rows after all others, or a byte that has no other
use. -/
def windowsPrivate? (char : Char) : Option Bytes :=
  let code := char.toNat
  if 0xe000 ≤ code ∧ code ≤ 0xe757 then some (shiftedBytes (94 * 94 + (code - 0xe000)))
  else if code = 0x80 then some [0x80]
  else if code = 0xf8f0 then some [0xa0]
  else if 0xf8f1 ≤ code ∧ code ≤ 0xf8f3 then some [UInt8.ofNat (code - 0xf7f4)]
  else none

def windowsJapanese? (char : Char) : Option Bytes :=
  (windowsPrivate? char)
    <|> ((narrowKana? char).map ([·]))
    <|> ((jisX0208.cell? char).map shiftedBytes)
    <|> ((windows31J.cell? char).map shiftedBytes)
    <|> ((windowsDoubles.lookup char).map shiftedBytes)

/-! ## Two and three bytes with high bits -/

/-- The code of a character where all bytes of the sets have their high bit set. -/
def eucJapanese? (char : Char) : Option Bytes :=
  ((yenOrOverline? char).map ([·]))
    <|> ((narrowKana? char).map ([0x8e, ·]))
    <|> ((jisX0208.cell? char).map (gridBytes 0xa1))
    <|> ((jisX0212.cell? char).map fun cell => 0x8f :: gridBytes 0xa1 cell)

/-! ## The extended set -/

inductive ExtendedEdition where
  | first
  | second
  deriving DecidableEq, Repr

inductive ExtendedCell where
  | firstPlane (cell : Nat)
  | secondPlane (cell : Nat)
  deriving DecidableEq, Repr

def secondEditionOnly : List Char :=
  ['俱', '剝', '吞', '噓', '姸', '屛', '幷', '瘦', '繫', '𠮟']

/-- The characters that an edition has neither in its own cells nor from another set. -/
def ExtendedEdition.lacks (edition : ExtendedEdition) (char : Char) : Bool :=
  match edition with
  | .first => secondEditionOnly.contains char || char = '鬜'
  | .second => false

/-- The cell of a character. The two editions have two forms of one ideograph in one cell. -/
def ExtendedEdition.cell? (edition : ExtendedEdition) (char : Char) : Option ExtendedCell :=
  let form := if edition = .first ∧ char = '鬝' then '鬜' else char
  if edition.lacks char then none
  else
    ((jisX0208.cell? form).map .firstPlane)
      <|> ((jisX0213First.cell? form).map .firstPlane)
      <|> ((jisX0213Second.cell? form).map .secondPlane)

/-- The cells of characters that are made of two, in the first plane. The zero character counts as
an empty second part: it is lost after a character that can be the first. -/
def combinedCells : List ((Char × Char) × Nat) := [
  (('か', '\u309a'), 368), (('き', '\u309a'), 369), (('く', '\u309a'), 370),
  (('け', '\u309a'), 371), (('こ', '\u309a'), 372), (('カ', '\u309a'), 462),
  (('キ', '\u309a'), 463), (('ク', '\u309a'), 464), (('ケ', '\u309a'), 465),
  (('コ', '\u309a'), 466), (('セ', '\u309a'), 467), (('ツ', '\u309a'), 468),
  (('ト', '\u309a'), 469), (('ㇷ', '\u309a'), 557), (('æ', '\u0300'), 975),
  (('ɔ', '\u0300'), 979), (('ɔ', '\u0301'), 980), (('ʌ', '\u0300'), 981),
  (('ʌ', '\u0301'), 982), (('ə', '\u0300'), 983), (('ə', '\u0301'), 984),
  (('ɚ', '\u0300'), 985), (('ɚ', '\u0301'), 986), (('˩', '˥'), 1008), (('˥', '˩'), 1009),
  (('か', '\x00'), 292), (('き', '\x00'), 294), (('く', '\x00'), 296), (('け', '\x00'), 298),
  (('こ', '\x00'), 300), (('カ', '\x00'), 386), (('キ', '\x00'), 388), (('ク', '\x00'), 390),
  (('ケ', '\x00'), 392), (('コ', '\x00'), 394), (('セ', '\x00'), 402), (('ツ', '\x00'), 411),
  (('ト', '\x00'), 415), (('ㇷ', '\x00'), 554), (('æ', '\x00'), 811), (('ɔ', '\x00'), 963),
  (('ʌ', '\x00'), 962), (('ə', '\x00'), 955), (('ɚ', '\x00'), 974), (('˩', '\x00'), 1007),
  (('˥', '\x00'), 1003)]

/-- The rows of the second plane in the order in which shifted rows take them. -/
def secondPlaneRows : List Nat :=
  [0, 7, 2, 3, 4, 11, 12, 13, 14] ++ (List.range 17).map (· + 77)

/-- The bytes of a cell of the extended set where rows are shifted. -/
def ExtendedCell.shiftedBytes? : ExtendedCell → Option Bytes
  | .firstPlane cell => some (shiftedBytes cell)
  | .secondPlane cell =>
    (secondPlaneRows.idxOf? (cell / 94)).map fun row => shiftedBytes ((94 + row) * 94 + cell % 94)

/-- The bytes of a cell of the extended set where all bytes have their high bit set. -/
def ExtendedCell.highBytes : ExtendedCell → Bytes
  | .firstPlane cell => gridBytes 0xa1 cell
  | .secondPlane cell => 0x8f :: gridBytes 0xa1 cell

def wideTilde : Char := '～'

/-- The code of a character of the extended set where rows are shifted. The single bytes of the
backslash and the tilde stand for the yen sign and the overline. -/
def extendedShiftJis? (edition : ExtendedEdition) (char : Char) : Option Bytes :=
  if char = '\\' then some (shiftedBytes 31)
  else if char = '~' then some (shiftedBytes 111)
  else if char = '＼' || char = wideTilde then none
  else
    ((yenOrOverline? char).map ([·]))
      <|> ((narrowKana? char).map ([·]))
      <|> ((edition.cell? char).bind ExtendedCell.shiftedBytes?)

/-- The code of a character of the extended set, or else of the supplementary one, where all bytes
have their high bit set. -/
def extendedEuc? (edition : ExtendedEdition) (char : Char) : Option Bytes :=
  if edition.lacks char then none
  else
    ((narrowKana? char).map ([0x8e, ·]))
      <|> ((edition.cell? char).map ExtendedCell.highBytes)
      <|> ((jisX0212.cell? char).map fun cell => 0x8f :: gridBytes 0xa1 cell)

end LuaBytecode.Text.EastAsian
