/-!
# Integers written by people

The grammar of an integer given as a word: blanks around it, a sign, and decimal digits of any
script with single underscores between them.
-/

set_option autoImplicit false

namespace LuaBytecode.Text

/-- The code points of the digit zero in each script; the other nine digits follow each of them. -/
def zeroDigits : List Nat := [
  0x0030, 0x0660, 0x06f0, 0x07c0, 0x0966, 0x09e6, 0x0a66, 0x0ae6, 0x0b66, 0x0be6, 0x0c66, 0x0ce6,
  0x0d66, 0x0de6, 0x0e50, 0x0ed0, 0x0f20, 0x1040, 0x1090, 0x17e0, 0x1810, 0x1946, 0x19d0, 0x1a80,
  0x1a90, 0x1b50, 0x1bb0, 0x1c40, 0x1c50, 0xa620, 0xa8d0, 0xa900, 0xa9d0, 0xa9f0, 0xaa50, 0xabf0,
  0xff10, 0x104a0, 0x10d30, 0x11066, 0x110f0, 0x11136, 0x111d0, 0x112f0, 0x11450, 0x114d0, 0x11650,
  0x116c0, 0x11730, 0x118e0, 0x11950, 0x11c50, 0x11d50, 0x11da0, 0x16a60, 0x16ac0, 0x16b50,
  0x1d7ce, 0x1d7d8, 0x1d7e2, 0x1d7ec, 0x1d7f6, 0x1e140, 0x1e2f0, 0x1e950, 0x1fbf0]

/-- The value of a decimal digit of any script. -/
def digitValue? (char : Char) : Option Nat :=
  let code := char.toNat
  zeroDigits.findSome? fun base =>
    if base ≤ code ∧ code < base + 10 then some (code - base) else none

/-- Whether a character may stand around an integer without being part of it. -/
def isBlank (char : Char) : Bool :=
  let code := char.toNat
  decide (0x9 ≤ code ∧ code ≤ 0xd) || decide (0x2000 ≤ code ∧ code ≤ 0x200a)
    || [0x20, 0x85, 0xa0, 0x1680, 0x2028, 0x2029, 0x202f, 0x205f, 0x3000].contains code

def trimmed (chars : List Char) : List Char :=
  ((chars.dropWhile isBlank).reverse.dropWhile isBlank).reverse

/-- The values of a non-empty run of digits, where one underscore may stand between two digits. -/
def groupedDigits? : List Char → Option (List Nat)
  | [] => none
  | [char] => (digitValue? char).map ([·])
  | char :: '_' :: rest => do
    let first ← digitValue? char
    let others ← groupedDigits? rest
    return first :: others
  | char :: rest => do
    let first ← digitValue? char
    let others ← groupedDigits? rest
    return first :: others

/-- The most decimal digits that an integer is read from or written in. -/
def maxDigits : Nat := 4300

/-- Whether an integer has few enough decimal digits to be written. -/
def isWritable (value : Int) : Bool :=
  decide (value.natAbs < Nat.pow 10 maxDigits)

/-- What is said of an integer with more digits than that. -/
def tooManyDigits : String :=
  s!"Exceeds the limit ({maxDigits} digits) for integer string conversion; "
    ++ "use sys.set_int_max_str_digits() to increase the limit"

/-- The number a run of digits stands for, unless the run is too long. -/
def naturalOfChars? (chars : List Char) : Option Nat := do
  let digits ← groupedDigits? chars
  if digits.length ≤ maxDigits then
    return digits.foldl (fun value digit => 10 * value + digit) 0
  else
    none

def integer? (word : String) : Option Int :=
  match trimmed word.toList with
  | '+' :: rest => (naturalOfChars? rest).map Int.ofNat
  | '-' :: rest => (naturalOfChars? rest).map fun value => -(value : Int)
  | chars => (naturalOfChars? chars).map Int.ofNat

end LuaBytecode.Text
