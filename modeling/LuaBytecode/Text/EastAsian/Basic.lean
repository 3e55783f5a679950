import LuaBytecode.Text.EastAsian.Chinese
import LuaBytecode.Text.EastAsian.Japanese
import LuaBytecode.Text.EastAsian.Korean
import LuaBytecode.Text.Encoding.Failure

/-!
# East Asian encodings

Some of these encodings write every character in the same way wherever it stands. Others switch
between sets: a sequence of bytes announces the set of what follows, and stays in force until
another set is announced. A text is not closed at its end, so that the last set stays in force and a
character that might combine with a next one is held back for good.
-/

set_option autoImplicit false

namespace LuaBytecode.Text

inductive EastAsian where
  | gb2312
  | gbk
  | gb18030
  | hz
  | big5
  | cp950
  | big5Hkscs
  | eucKr
  | cp949
  | johab
  | iso2022Kr
  | shiftJis
  | cp932
  | eucJp
  | iso2022Jp
  | iso2022Jp1
  | iso2022Jp2
  | iso2022JpExt
  | iso2022Jp3
  | iso2022Jp2004
  | shiftJisX0213
  | shiftJis2004
  | eucJisX0213
  | eucJis2004
  deriving DecidableEq, Repr

namespace EastAsian

/-- The canonical name of an encoding, under which it also reports. -/
def name : EastAsian → String
  | .gb2312 => "gb2312"
  | .gbk => "gbk"
  | .gb18030 => "gb18030"
  | .hz => "hz"
  | .big5 => "big5"
  | .cp950 => "cp950"
  | .big5Hkscs => "big5hkscs"
  | .eucKr => "euc_kr"
  | .cp949 => "cp949"
  | .johab => "johab"
  | .iso2022Kr => "iso2022_kr"
  | .shiftJis => "shift_jis"
  | .cp932 => "cp932"
  | .eucJp => "euc_jp"
  | .iso2022Jp => "iso2022_jp"
  | .iso2022Jp1 => "iso2022_jp_1"
  | .iso2022Jp2 => "iso2022_jp_2"
  | .iso2022JpExt => "iso2022_jp_ext"
  | .iso2022Jp3 => "iso2022_jp_3"
  | .iso2022Jp2004 => "iso2022_jp_2004"
  | .shiftJisX0213 => "shift_jisx0213"
  | .shiftJis2004 => "shift_jis_2004"
  | .eucJisX0213 => "euc_jisx0213"
  | .eucJis2004 => "euc_jis_2004"

def all : List EastAsian :=
  [.gb2312, .gbk, .gb18030, .hz, .big5, .cp950, .big5Hkscs, .eucKr, .cp949, .johab, .iso2022Kr,
    .shiftJis, .cp932, .eucJp, .iso2022Jp, .iso2022Jp1, .iso2022Jp2, .iso2022JpExt, .iso2022Jp3,
    .iso2022Jp2004, .shiftJisX0213, .shiftJis2004, .eucJisX0213, .eucJis2004]

/-! ## Coded characters -/

/-- A coded character: the bytes that announce its set, and its bytes within the set. Where nothing
is ever announced, all characters are of one set. -/
structure Coded where
  announcement : Bytes
  bytes : Bytes
  deriving DecidableEq, Repr

/-- The bytes of characters. An announcement is made where the set changes, the first one after a
preamble. -/
def announced (preamble current : Bytes) : List Coded → Bytes
  | [] => []
  | coded :: rest =>
    if coded.announcement = current then coded.bytes ++ announced preamble current rest
    else preamble ++ coded.announcement ++ coded.bytes ++ announced [] coded.announcement rest

/-- The announcement of a set: an escape character and the given ones. -/
def escape (chars : String) : Bytes :=
  0x1b :: Bytes.ofChars chars.toList

def asciiEscape : Bytes := escape "(B"

/-- The first of several sets that has a character. Each set has its announcement and the bytes of
its characters. -/
def firstSet (sets : List (Bytes × (Char → Option Bytes))) (char : Char) : Option Coded :=
  sets.findSome? fun (announcement, bytes?) => (bytes? char).map (Coded.mk announcement)

/-- The bytes of a character in a table with rows of ninety-four, with no high bit set. -/
def lowBytes (table : CellTable) (char : Char) : Option Bytes :=
  (table.cell? char).map (gridBytes 0x21)

def standardJapanese : Bytes × (Char → Option Bytes) :=
  (escape "$B", lowBytes jisX0208)

def supplementaryJapanese : Bytes × (Char → Option Bytes) :=
  (escape "$(D", lowBytes jisX0212)

/-- The Japanese set of single bytes, of which only what ASCII lacks is used, with its
announcement. -/
def singleByteJapanese : Bytes × (Char → Option Bytes) :=
  (escape "(J", fun char => (yenOrOverline? char).map ([·]))

def narrowKanaSet : Bytes × (Char → Option Bytes) :=
  (escape "(I", fun char => (narrowKana? char).map fun byte => [byte - 0x80])

/-- The first plane of the extended Japanese set, with the announcement of an edition. -/
def extendedFirst (edition : ExtendedEdition) (announcement : Bytes) :
    Bytes × (Char → Option Bytes) :=
  (announcement, fun char =>
    match if char = wideTilde then none else edition.cell? char with
    | some (.firstPlane cell) => some (gridBytes 0x21 cell)
    | _ => none)

/-- The second plane of the extended Japanese set with its announcement. -/
def extendedSecond (edition : ExtendedEdition) : Bytes × (Char → Option Bytes) :=
  (escape "$(P", fun char =>
    match edition.cell? char with
    | some (.secondPlane cell) => some (gridBytes 0x21 cell)
    | _ => none)

def firstEditionEscape : Bytes := escape "$(O"

def secondEditionEscape : Bytes := escape "$(Q"

/-- The announcement of the Korean set where it has been named before. -/
def shiftOut : Bytes := [0x0e]

def shiftIn : Bytes := [0x0f]

/-- The announcement of the Chinese set in texts for mail. -/
def braceOpen : Bytes := [0x7e, 0x7b]

def braceClose : Bytes := [0x7e, 0x7d]

/-- A character of ASCII in an encoding. The tilde is doubled where it begins announcements. -/
def asciiCode? (encoding : EastAsian) (char : Char) : Option Coded :=
  if 128 ≤ char.toNat then none
  else
    let byte := UInt8.ofNat char.toNat
    match encoding with
    | .hz => some ⟨braceClose, if char = '~' then [byte, byte] else [byte]⟩
    | .iso2022Kr => some ⟨shiftIn, [byte]⟩
    | .iso2022Jp | .iso2022Jp1 | .iso2022Jp2 | .iso2022JpExt | .iso2022Jp3 | .iso2022Jp2004 =>
      some ⟨asciiEscape, [byte]⟩
    | .shiftJisX0213 | .shiftJis2004 =>
      if char = '\\' || char = '~' then none else some ⟨[], [byte]⟩
    | _ => some ⟨[], [byte]⟩

def wideCode? (encoding : EastAsian) (char : Char) : Option Coded :=
  let plain := fun bytes? : Option Bytes => bytes?.map (Coded.mk [])
  match encoding with
  | .gb2312 => plain (simplified? char)
  | .gbk => plain (extended? char)
  | .gb18030 => plain (some (universal char))
  | .hz => firstSet [(braceOpen, lowBytes gb2312Cells)] char
  | .big5 => plain (traditional? char)
  | .cp950 => plain (windowsTraditional? char)
  | .big5Hkscs => plain (hongKong? char)
  | .eucKr => plain (eucKorean? char)
  | .cp949 => plain (windowsKorean? char)
  | .johab => plain (johab? char)
  | .iso2022Kr => firstSet [(shiftOut, lowBytes ksX1001)] char
  | .shiftJis => plain (shiftJis? char)
  | .cp932 => plain (windowsJapanese? char)
  | .eucJp => plain (eucJapanese? char)
  | .iso2022Jp => firstSet [standardJapanese, singleByteJapanese] char
  | .iso2022Jp1 => firstSet [standardJapanese, supplementaryJapanese, singleByteJapanese] char
  | .iso2022Jp2 =>
    firstSet [standardJapanese, supplementaryJapanese, (escape "$(C", lowBytes ksX1001),
      (escape "$(A", lowBytes gb2312Cells), singleByteJapanese] char
  | .iso2022JpExt =>
    firstSet [standardJapanese, supplementaryJapanese, singleByteJapanese, narrowKanaSet] char
  | .iso2022Jp3 =>
    firstSet [standardJapanese, extendedFirst .first firstEditionEscape, extendedSecond .first]
      char
  | .iso2022Jp2004 =>
    firstSet [standardJapanese, extendedFirst .second secondEditionEscape, extendedSecond .second]
      char
  | .shiftJisX0213 => plain (extendedShiftJis? .first char)
  | .shiftJis2004 => plain (extendedShiftJis? .second char)
  | .eucJisX0213 => plain (extendedEuc? .first char)
  | .eucJis2004 => plain (extendedEuc? .second char)

def code? (encoding : EastAsian) (char : Char) : Option Coded :=
  (encoding.asciiCode? char) <|> (encoding.wideCode? char)

/-- The characters made of two that an encoding has. -/
def combined (encoding : EastAsian) : List ((Char × Char) × Coded) :=
  let each := fun (cells : List ((Char × Char) × Nat)) (code : Nat → Coded) =>
    cells.map fun (pair, cell) => (pair, code cell)
  match encoding with
  | .big5Hkscs => each hongKongCombined fun cell => ⟨[], traditionalBytes cell⟩
  | .shiftJisX0213 | .shiftJis2004 => each combinedCells fun cell => ⟨[], shiftedBytes cell⟩
  | .eucJisX0213 | .eucJis2004 => each combinedCells fun cell => ⟨[], gridBytes 0xa1 cell⟩
  | .iso2022Jp3 => each combinedCells fun cell => ⟨firstEditionEscape, gridBytes 0x21 cell⟩
  | .iso2022Jp2004 => each combinedCells fun cell => ⟨secondEditionEscape, gridBytes 0x21 cell⟩
  | _ => []

/-! ## Texts -/

def missingReason : String := "illegal multibyte sequence"

/-- The coded characters of a text, up to the first that is missing. The `position` is that of the
first character in the whole text. -/
def codedText (encoding : EastAsian) (position : Nat) :
    List Char → Except Unencodable (List Coded)
  | [] => .ok []
  | [char] =>
    if encoding.combined.any fun entry => entry.1.1 == char then .ok []
    else
      match encoding.code? char with
      | some coded => .ok [coded]
      | none => .error ⟨encoding.name, missingReason, char, position, position⟩
  | char :: next :: rest =>
    match encoding.combined.lookup (char, next) with
    | some coded => (encoding.codedText (position + 2) rest).map (coded :: ·)
    | none =>
      match encoding.code? char with
      | some coded => (encoding.codedText (position + 1) (next :: rest)).map (coded :: ·)
      | none => .error ⟨encoding.name, missingReason, char, position, position⟩

/-- The announcement that is in force at the start of a text. -/
def start : EastAsian → Bytes
  | .hz => braceClose
  | .iso2022Kr => shiftIn
  | .iso2022Jp | .iso2022Jp1 | .iso2022Jp2 | .iso2022JpExt | .iso2022Jp3 | .iso2022Jp2004 =>
    asciiEscape
  | _ => []

/-- What comes before the first announcement. -/
def preamble : EastAsian → Bytes
  | .iso2022Kr => escape "$)C"
  | _ => []

def encode (encoding : EastAsian) (text : String) : Except Unencodable Bytes :=
  (encoding.codedText 0 text.toList).map (announced encoding.preamble encoding.start)

end EastAsian

end LuaBytecode.Text
