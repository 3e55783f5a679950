import LuaBytecode.Bytes
import LuaBytecode.Text.Utf16

/-!
# Encodings of all characters

The forms of Unicode text that write units of one, two or four bytes, and the older form that makes
do with the characters of ASCII mail.
-/

set_option autoImplicit false

namespace LuaBytecode.Text

inductive UnicodeForm where
  | utf8
  | utf16 (order : ByteOrder)
  | utf32 (order : ByteOrder)
  deriving DecidableEq, Repr

namespace UnicodeForm

def encode : UnicodeForm → String → Bytes
  | .utf8, text => Bytes.ofText text
  | .utf16 order, text => text.toList.flatMap fun char => (utf16Units char).flatMap (order.field 2)
  | .utf32 order, text => text.toList.flatMap fun char => order.field 4 char.toNat

/-- The bytes that tell a reader of a file in which form it is: the form of one special
character. -/
def signature (form : UnicodeForm) : Bytes :=
  form.encode "\ufeff"

end UnicodeForm

/-! ## The form for mail -/

namespace Utf7

/-- Whether a character stands for itself. -/
def isDirect (char : Char) : Bool :=
  let code := char.toNat
  (decide (0x20 ≤ code ∧ code ≤ 0x7d) && char != '+' && char != '\\')
    || char == '\t' || char == '\n' || char == '\r'

/-- The digit that stands for a value below sixty-four. -/
def base64Digit (value : Nat) : Char :=
  if value < 26 then Char.ofNat (0x41 + value)
  else if value < 52 then Char.ofNat (0x61 + value - 26)
  else if value < 62 then Char.ofNat (0x30 + value - 52)
  else if value = 62 then '+'
  else '/'

def isBase64Digit (char : Char) : Bool :=
  char.isAlphanum || char == '+' || char == '/'

/-- The bits of a unit, the most significant first. -/
def unitBits (unit : Nat) : List Bool :=
  (List.range 16).reverse.map unit.testBit

/-- The digits of a run of bits, six bits each. Missing bits at the end are zeros. -/
def base64Digits : List Bool → List Char
  | [] => []
  | bit0 :: rest =>
    let bits := bit0 :: rest.take 5
    let value := bits.foldl (fun value bit => 2 * value + bit.toNat) 0
    base64Digit (value <<< (6 - bits.length)) :: base64Digits (rest.drop 5)
termination_by bits => bits.length
decreasing_by
  simp only [List.length_drop, List.length_cons]
  omega

/-- The digits of a run of characters that do not stand for themselves. -/
def shifted (chars : List Char) : List Char :=
  base64Digits (chars.flatMap fun char => (utf16Units char).flatMap unitBits)

/-- The text in the form for mail. The first argument is the run of characters, the last one first,
that has been started with a plus sign and not yet been written. A hyphen ends a run at the end of
the text, and before a character that would otherwise be taken for a part of it. -/
def chars : Option (List Char) → List Char → List Char
  | none, [] => []
  | some run, [] => shifted run.reverse ++ ['-']
  | none, char :: rest =>
    if char = '+' then '+' :: '-' :: chars none rest
    else if isDirect char then char :: chars none rest
    else '+' :: chars (some [char]) rest
  | some run, char :: rest =>
    if isDirect char then
      let closing := if isBase64Digit char || char == '-' then ['-'] else []
      shifted run.reverse ++ closing ++ char :: chars none rest
    else chars (some (char :: run)) rest

def encode (text : String) : Bytes :=
  Bytes.ofChars (chars none text.toList)

end Utf7

end LuaBytecode.Text
