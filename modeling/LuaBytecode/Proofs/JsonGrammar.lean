import LuaBytecode.Json.Basic
import Mathlib.Algebra.Order.Ring.Int

/-!
# Reading JSON texts

The grammar of JSON texts as a reader: white space around every token, all escapes of strings,
numbers without leading zeros, no comma before a closing bracket. An integer is read as its value
and any other number as its token. The reader is told how many levels and items to expect at most;
the length of the text is always enough.
-/

set_option autoImplicit false

namespace LuaBytecode

/-- What a JSON text says. -/
inductive JsonReading where
  | null
  | boolean (value : Bool)
  | integer (value : Int)
  -- A number with a fraction or an exponent, as it is written.
  | decimal (token : List Char)
  | text (value : String)
  | array (items : List JsonReading)
  | object (members : List (String × JsonReading))

namespace JsonReading

def isBlank (char : Char) : Bool :=
  char == ' ' || char == '\n' || char == '\r' || char == '\t'

def skipBlanks (chars : List Char) : List Char :=
  chars.dropWhile isBlank

/-! ## Strings -/

def hexValue? (char : Char) : Option Nat :=
  if '0' ≤ char ∧ char ≤ '9' then some (char.toNat - 0x30)
  else if 'a' ≤ char ∧ char ≤ 'f' then some (char.toNat - 0x57)
  else if 'A' ≤ char ∧ char ≤ 'F' then some (char.toNat - 0x37)
  else none

/-- The UTF-16 unit written as four hexadecimal digits. -/
def unit? (first second third fourth : Char) : Option Nat := do
  let a ← hexValue? first
  let b ← hexValue? second
  let c ← hexValue? third
  let d ← hexValue? fourth
  return ((a * 16 + b) * 16 + c) * 16 + d

/-- The code that a backslash and a mark stand for. -/
def escapedCode? : Char → Option Nat
  | '"' => some 0x22
  | '\\' => some 0x5c
  | '/' => some 0x2f
  | 'b' => some 0x08
  | 'f' => some 0x0c
  | 'n' => some 0x0a
  | 'r' => some 0x0d
  | 't' => some 0x09
  | _ => none

/-- The UTF-16 units of a string up to its closing quotation mark, and what follows the mark. -/
def stringUnits : List Char → Option (List Nat × List Char)
  | [] => none
  | '"' :: rest => some ([], rest)
  | '\\' :: 'u' :: a :: b :: c :: d :: rest => do
    let unit ← unit? a b c d
    let (units, after) ← stringUnits rest
    return (unit :: units, after)
  | '\\' :: mark :: rest => do
    let code ← escapedCode? mark
    let (units, after) ← stringUnits rest
    return (code :: units, after)
  | char :: rest =>
    if char.toNat < 0x20 then none
    else do
      let (units, after) ← stringUnits rest
      return (Text.utf16Units char ++ units, after)

/-- The characters of a sequence of UTF-16 units, in which surrogates stand in pairs only. -/
def charsOfUnits : List Nat → Option (List Char)
  | [] => some []
  | unit :: rest =>
    if 0xd800 ≤ unit ∧ unit < 0xdc00 then
      match rest with
      | low :: rest =>
        if 0xdc00 ≤ low ∧ low < 0xe000 then
          (charsOfUnits rest).map
            (Char.ofNat (0x10000 + (unit - 0xd800) * 0x400 + (low - 0xdc00)) :: ·)
        else none
      | [] => none
    else if 0xdc00 ≤ unit ∧ unit < 0xe000 then none
    else (charsOfUnits rest).map (Char.ofNat unit :: ·)

/-- A string after its opening quotation mark. -/
def string (chars : List Char) : Option (String × List Char) := do
  let (units, rest) ← stringUnits chars
  let written ← charsOfUnits units
  return (String.ofList written, rest)

/-! ## Words and numbers -/

/-- What words and numbers are made of. -/
def isTokenChar (char : Char) : Bool :=
  char.isAlphanum || char == '-' || char == '+' || char == '.'

def isDigits (chars : List Char) : Bool :=
  !chars.isEmpty && chars.all Char.isDigit

/-- Digits of which the first is not zero, unless it is the only one. -/
def isWhole (chars : List Char) : Bool :=
  isDigits chars && (chars.head? != some '0' || chars.length == 1)

def isExponent : List Char → Bool
  | '+' :: digits | '-' :: digits => isDigits digits
  | digits => isDigits digits

/-- What stands before the first character of a kind, and what follows it, if there is one. -/
def cut (separates : Char → Bool) (chars : List Char) : List Char × Option (List Char) :=
  match chars.dropWhile fun char => !separates char with
  | [] => (chars, none)
  | _ :: rest => (chars.takeWhile fun char => !separates char, some rest)

/-- The number that a token stands for: an optional sign, digits, an optional fraction after a point
and an optional exponent after its mark. -/
def number (token : List Char) : Option JsonReading :=
  let unsigned := if token.head? = some '-' then token.drop 1 else token
  let (mantissa, exponent) := cut (fun char => char == 'e' || char == 'E') unsigned
  let (whole, fraction) := cut (· == '.') mantissa
  if isWhole whole && fraction.all isDigits && exponent.all isExponent then
    if fraction.isSome || exponent.isSome then some (.decimal token)
    else
      let size : Int := Nat.ofDigitChars 10 whole 0
      some (.integer (if token.head? = some '-' then -size else size))
  else none

/-- A word or a number. -/
def scalar (chars : List Char) : Option (JsonReading × List Char) :=
  let token := chars.takeWhile isTokenChar
  let rest := chars.dropWhile isTokenChar
  if token = ['n', 'u', 'l', 'l'] then some (.null, rest)
  else if token = ['t', 'r', 'u', 'e'] then some (.boolean true, rest)
  else if token = ['f', 'a', 'l', 's', 'e'] then some (.boolean false, rest)
  else (number token).map fun value => (value, rest)

/-! ## Values -/

/-- The name of a member and the colon after it. -/
def memberName (chars : List Char) : Option (String × List Char) :=
  match skipBlanks chars with
  | '"' :: rest => do
    let (name, after) ← string rest
    match skipBlanks after with
    | ':' :: rest => return (name, rest)
    | _ => none
  | _ => none

mutual

/-- A value and what follows it. -/
def value : Nat → List Char → Option (JsonReading × List Char)
  | 0, _ => none
  | bound + 1, chars =>
    match skipBlanks chars with
    | '"' :: rest => do
      let (written, after) ← string rest
      return (.text written, after)
    | '[' :: rest =>
      match skipBlanks rest with
      | ']' :: after => return (.array [], after)
      | _ => do
        let (first, after) ← value bound rest
        let (others, after) ← items bound after
        return (.array (first :: others), after)
    | '\x7b' :: rest =>
      match skipBlanks rest with
      | '\x7d' :: after => return (.object [], after)
      | _ => do
        let (name, after) ← memberName rest
        let (first, after) ← value bound after
        let (others, after) ← members bound after
        return (.object ((name, first) :: others), after)
    | start => scalar start

/-- The items of an array after the first, up to the closing bracket. -/
def items : Nat → List Char → Option (List JsonReading × List Char)
  | 0, _ => none
  | bound + 1, chars =>
    match skipBlanks chars with
    | ']' :: after => return ([], after)
    | ',' :: rest => do
      let (item, after) ← value bound rest
      let (others, after) ← items bound after
      return (item :: others, after)
    | _ => none

/-- The members of an object after the first, up to the closing brace. -/
def members : Nat → List Char → Option (List (String × JsonReading) × List Char)
  | 0, _ => none
  | bound + 1, chars =>
    match skipBlanks chars with
    | '\x7d' :: after => return ([], after)
    | ',' :: rest => do
      let (name, after) ← memberName rest
      let (item, after) ← value bound after
      let (others, after) ← members bound after
      return ((name, item) :: others, after)
    | _ => none

end

/-- What a whole text says, if it is a JSON text. -/
def ofText (text : String) : Option JsonReading := do
  let chars := text.toList
  let (reading, rest) ← value (chars.length + 1) chars
  if skipBlanks rest = [] then return reading else none

end JsonReading

end LuaBytecode
