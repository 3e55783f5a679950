import LuaBytecode.Text.EastAsian.KsX1001

/-!
# Korean codes

The bytes of a character in the Korean encodings. A syllable is made of an initial consonant, a
vowel and perhaps a final consonant; the standard set has only the common syllables, and the
encodings differ in how they write the others.
-/

set_option autoImplicit false

namespace LuaBytecode.Text.EastAsian

def syllable? (char : Char) : Option Nat :=
  let code := char.toNat
  if 0xac00 ≤ code ∧ code ≤ 0xd7a3 then some (code - 0xac00) else none

def initialOf (syllable : Nat) : Nat := syllable / 588

def vowelOf (syllable : Nat) : Nat := syllable / 28 % 21

/-- The number of the final consonant of a syllable, zero for none. -/
def finalOf (syllable : Nat) : Nat := syllable % 28

/-! ## Syllables spelled out -/

/-- The columns of the initial consonants in the row of single letters. -/
def initialColumns : List UInt8 :=
  [0xa1, 0xa2, 0xa4, 0xa7, 0xa8, 0xa9, 0xb1, 0xb2, 0xb3, 0xb5, 0xb6, 0xb7, 0xb8, 0xb9, 0xba, 0xbb,
    0xbc, 0xbd, 0xbe]

/-- The columns of the final consonants in the row of single letters, the filler first. -/
def finalColumns : List UInt8 :=
  [0xd4, 0xa1, 0xa2, 0xa3, 0xa4, 0xa5, 0xa6, 0xa7, 0xa9, 0xaa, 0xab, 0xac, 0xad, 0xae, 0xaf, 0xb0,
    0xb1, 0xb2, 0xb4, 0xb5, 0xb6, 0xb7, 0xb8, 0xba, 0xbb, 0xbc, 0xbd, 0xbe]

/-- A syllable as the filler and its letters, two bytes each. -/
def spelledOut (syllable : Nat) : Bytes :=
  [0xa4, 0xd4, 0xa4, initialColumns.getD (initialOf syllable) 0, 0xa4,
    UInt8.ofNat (0xbf + vowelOf syllable), 0xa4, finalColumns.getD (finalOf syllable) 0]

/-- The code of a character where all bytes have their high bit set. -/
def eucKorean? (char : Char) : Option Bytes :=
  ((ksX1001.cell? char).map (gridBytes 0xa1)) <|> ((syllable? char).map spelledOut)

/-! ## Syllables in the gaps -/

/-- The number of a syllable among those that are not in the standard set. -/
def uncommonIndex (char : Char) : Nat :=
  let common := ksX1001.count fun other =>
    decide (0xac00 ≤ other.toNat ∧ other.toNat ≤ 0xd7a3 ∧ other.toNat < char.toNat)
  char.toNat - 0xac00 - common

/-- The second byte of a syllable in the gaps: the letters of ASCII, then all bytes from 0x81 on. -/
def gapByte (place : Nat) : UInt8 :=
  UInt8.ofNat (if place < 26 then 0x41 + place
    else if place < 52 then 0x61 + place - 26
    else 0x81 + place - 52)

/-- The bytes of a syllable in the gaps. Up to the first row of the standard set a row has 178
places, and from there on the 84 that the set leaves. -/
def gapBytes (index : Nat) : Bytes :=
  if index < 32 * 178 then [UInt8.ofNat (0x81 + index / 178), gapByte (index % 178)]
  else
    let later := index - 32 * 178
    [UInt8.ofNat (0xa1 + later / 84), gapByte (later % 84)]

def windowsKorean? (char : Char) : Option Bytes :=
  ((ksX1001.cell? char).map (gridBytes 0xa1))
    <|> ((syllable? char).map fun _ => gapBytes (uncommonIndex char))

/-! ## Syllables by their letters -/

def vowelBits (vowel : Nat) : Nat :=
  if vowel < 5 then vowel + 3
  else if vowel < 11 then vowel + 5
  else if vowel < 17 then vowel + 7
  else vowel + 9

def finalBits (final : Nat) : Nat :=
  if final < 17 then final + 1 else final + 2

/-- The bytes of three groups of five bits after a bit that is set. -/
def letterBytes (initial vowel final : Nat) : Bytes :=
  ByteOrder.big.field 2 (0x8000 + initial * 0x400 + vowel * 0x20 + final)

/-- The final consonants that are never initial ones, by their place in the row of letters. -/
def finalOnly : List (Nat × Nat) :=
  [(2, 3), (4, 5), (5, 6), (9, 9), (10, 10), (11, 11), (12, 12), (13, 13), (14, 14), (15, 15),
    (19, 18)]

/-- The bytes of a single letter, by its place in the row of letters: consonants, then vowels. A
missing part has bits of its own. -/
def singleLetter (place : Nat) : Bytes :=
  if 30 ≤ place then letterBytes 1 (vowelBits (place - 30)) 1
  else
    match finalOnly.lookup place with
    | some final => letterBytes 1 2 (finalBits final)
    | none => letterBytes ((initialColumns.idxOf (UInt8.ofNat (0xa1 + place))) + 2) 2 1

/-- The bytes of another character, where two rows of the standard set share one first byte. -/
def pairedBytes (cell : Nat) : Bytes :=
  let row := cell / 94
  let half := if row < 41 then row + 0x1b2 else row + 0x197
  let place := half % 2 * 94 + cell % 94
  [UInt8.ofNat (half / 2), UInt8.ofNat (if place < 78 then place + 0x31 else place + 0x43)]

/-- The code of a character where a syllable is written by its letters. -/
def johab? (char : Char) : Option Bytes :=
  let code := char.toNat
  match syllable? char with
  | some syllable =>
    some (letterBytes (initialOf syllable + 2) (vowelBits (vowelOf syllable))
      (finalBits (finalOf syllable)))
  | none =>
    if 0x3131 ≤ code ∧ code ≤ 0x3163 then some (singleLetter (code - 0x3131))
    else (ksX1001.cell? char).map pairedBytes

end LuaBytecode.Text.EastAsian
