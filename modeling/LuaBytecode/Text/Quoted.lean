import LuaBytecode.Bytes
import LuaBytecode.Text.Printable

/-!
# Quoted text

How messages and log records show a text, or a run of bytes, between quotation marks so that no
character of it is lost or invisible. The mark is an apostrophe unless the text holds an apostrophe
and no double quote. The mark itself, the backslash and the three common layout characters are
written with a backslash; any other character that would not show is written by its code.
-/

set_option autoImplicit false

namespace LuaBytecode.Text

/-- The lower-case hexadecimal digits of `number`, filled up with zeros to `width` of them. -/
def hexDigits (width number : Nat) : List Char :=
  let digits := Nat.toDigits 16 number
  List.replicate (width - digits.length) '0' ++ digits

/-- The lower-case hexadecimal digits of an integer, after a hyphen if it is negative. -/
def signedHexDigits (number : Int) : List Char :=
  if number < 0 then '-' :: Nat.toDigits 16 number.natAbs else Nat.toDigits 16 number.natAbs

/-- A character shown by its code, in two, four or eight hexadecimal digits. -/
def escapedCode (code : Nat) : List Char :=
  if code < 0x100 then '\\' :: 'x' :: hexDigits 2 code
  else if code < 0x10000 then '\\' :: 'u' :: hexDigits 4 code
  else '\\' :: 'U' :: hexDigits 8 code

/-- The quotation mark for a text with these characters. -/
def quotationMark (chars : List Char) : Char :=
  if chars.contains '\x27' && !chars.contains '"' then '"' else '\x27'

/-- One character as it stands between two `mark`s, where `shown` says what needs no escape. -/
def quotedChar (mark : Char) (shown : Char → Bool) (char : Char) : List Char :=
  if char = mark || char = '\\' then ['\\', char]
  else if char = '\n' then ['\\', 'n']
  else if char = '\r' then ['\\', 'r']
  else if char = '\t' then ['\\', 't']
  else if shown char then [char]
  else escapedCode char.toNat

def quotedChars (shown : Char → Bool) (chars : List Char) : List Char :=
  let mark := quotationMark chars
  mark :: (chars.flatMap (quotedChar mark shown) ++ [mark])

def quoted (text : String) : String :=
  String.ofList (quotedChars isPrintable text.toList)

/-- A run of bytes between quotation marks, after the letter that tells it from a text. Only the
printable characters of ASCII are shown as themselves. -/
def quotedBytes (bytes : Bytes) : String :=
  let shown := fun char : Char => decide (0x20 ≤ char.toNat) && decide (char.toNat < 0x7f)
  String.ofList ('b' :: quotedChars shown (bytes.map Char.ofUInt8))

end LuaBytecode.Text
