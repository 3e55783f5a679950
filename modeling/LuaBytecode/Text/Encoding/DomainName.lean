import LuaBytecode.Text.Direction
import LuaBytecode.Text.Encoding.Punycode
import LuaBytecode.Text.NormalForm.Basic
import LuaBytecode.Text.SmallLetter

/-!
# Domain names

The parts of a domain name in the characters of ASCII. A part that has others is prepared first, so
that names which people take for the same are written the same: letters are made small, the part is
brought into normal form, characters that do not show are left out or refused, and the two writing
directions must not be mixed. What then still is not ASCII is written behind a mark of its own.
-/

set_option autoImplicit false

namespace LuaBytecode.Text.DomainName

/-! ## Parts -/

def isDot (char : Char) : Bool :=
  char == '.' || char == '\u3002' || char == '\uff0e' || char == '\uff61'

/-- The parts that are ended by a dot. What follows the last dot is left out. -/
def endedParts (started : List Char) : List Char → List (List Char)
  | [] => []
  | char :: rest =>
    if isDot char then started.reverse :: endedParts [] rest else endedParts (char :: started) rest

/-! ## Preparation -/

/-- The codes of characters that make no difference in a name: hyphens that show at a line end only,
joiners and selectors of variants. -/
def ignored : CodeRanges := [
  (0x00ad, 0x00ad), (0x034f, 0x034f), (0x1806, 0x1806), (0x180b, 0x180d), (0x200b, 0x200d),
  (0x2060, 0x2060), (0xfe00, 0xfe0f), (0xfeff, 0xfeff)]

def iotaBelow : Char := '\u0345'

/-- A letter in a form that makes no difference between capitals and small letters. The sharp s, the
final sigma and the iota below have no capitals of their own. -/
def smallForm (char : Char) : List Char :=
  if char = 'ß' then ['s', 's']
  else if char = 'ς' then ['σ']
  else if char = iotaBelow then ['ι']
  else
    match baseAndMark? char with
    | some (base, mark) => if mark = iotaBelow then [base, 'ι'] else smallLetter char
    | none => smallLetter char

/-- A character in a form that makes no difference between capitals and small letters, also where
they appear in its normal form only. -/
def folded (char : Char) : List Char :=
  let small := smallForm char
  let normal := normalForm small
  let again := normalForm (normal.flatMap smallForm)
  if normal = again then small else again

/-- The codes of characters that no name may have: blanks other than the plain one, controls, those
that change how others show, and those for private use. -/
def refused : CodeRanges := [
  (0x0080, 0x00a0), (0x0340, 0x0341), (0x06dd, 0x06dd), (0x070f, 0x070f), (0x1680, 0x1680),
  (0x180e, 0x180e), (0x2000, 0x200f), (0x2028, 0x202f), (0x205f, 0x2063), (0x206a, 0x206f),
  (0x2ff0, 0x2ffb), (0x3000, 0x3000), (0xe000, 0xf8ff), (0xfdd0, 0xfdef), (0xfeff, 0xfeff),
  (0xfff9, 0xffff), (0x1d173, 0x1d17a), (0xe0001, 0xe0001), (0xe0020, 0xe007f),
  (0xf0000, 0x10ffff)]

/-- Whether no name may have a character. The last two codes of every plane stand for none. -/
def isRefused (char : Char) : Bool :=
  refused.includes char.toNat || decide (0xfffe ≤ char.toNat % 0x10000)

def isRightToLeft (char : Char) : Bool :=
  rightToLeft.includes char.toNat

def isLeftToRight (char : Char) : Bool :=
  leftToRight.includes char.toNat

/-- What is wrong with the writing directions in a part. One that has characters written from right
to left must begin and end with such, and must have none written from left to right. -/
def directionFailure? (part : List Char) : Option LabelFailure :=
  if !part.any isRightToLeft then none
  else if part.any isLeftToRight then some .mixedDirections
  else if part.head?.any isRightToLeft && part.getLast?.any isRightToLeft then none
  else some .openDirection

/-- A part in the form in which names are compared. -/
def prepared (part : List Char) : Except LabelFailure (List Char) :=
  let shown := part.filter fun char => !ignored.includes char.toNat
  let normal := normalForm (shown.flatMap folded)
  match normal.find? isRefused with
  | some char => .error (.refusedCharacter char)
  | none =>
    match directionFailure? normal with
    | some failure => .error failure
    | none => .ok normal

/-! ## Written form -/

def mark : List Char := ['x', 'n', '-', '-']

def ofLength (part : List Char) : Except LabelFailure (List Char) :=
  if 0 < part.length ∧ part.length < 64 then .ok part else .error .badLength

def isAscii (chars : List Char) : Bool :=
  chars.all fun char => decide (char.toNat < 128)

def written (part : List Char) : Except LabelFailure (List Char) := do
  if isAscii part then ofLength part
  else
    let normal ← prepared part
    if isAscii normal then ofLength normal
    else if mark.isPrefixOf normal then .error .alreadyWritten
    else ofLength (mark ++ Punycode.chars normal)

/-- The written form of the ended parts of a text, each with a dot after it. -/
def encode (text : String) : Except LabelFailure Bytes := do
  let parts ← (endedParts [] text.toList).mapM written
  return Bytes.ofChars (parts.flatMap fun part => part ++ ['.'])

end LuaBytecode.Text.DomainName
