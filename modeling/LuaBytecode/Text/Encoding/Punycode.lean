import LuaBytecode.Text.Encoding.Failure

/-!
# Texts in ASCII alone

A text in the characters of ASCII alone: first its ASCII characters, then, after a hyphen, numbers
that say where the others belong. The others are inserted in the order of their codes, and each
number counts the places and codes passed over since the insertion before it.
-/

set_option autoImplicit false

namespace LuaBytecode.Text

namespace Punycode

/-- The digit that stands for a value below thirty-six. -/
def digit (value : Nat) : Char :=
  if value < 26 then Char.ofNat (0x61 + value) else Char.ofNat (0x30 + value - 26)

/-- The least value of a digit that is not the last of its number, at a place counted in steps of
thirty-six. -/
def threshold (bias place : Nat) : Nat :=
  min 26 (max 1 (place - bias))

/-- Every digit but the last is at least one. -/
theorem threshold_pos (bias place : Nat) : 1 ≤ threshold bias place := by
  simp only [threshold]
  omega

/-- The digits of a number from the given place on, the least significant first. -/
def digits (bias place value : Nat) : List Char :=
  let least := threshold bias place
  if value < least then [digit value]
  else
    digit (least + (value - least) % (36 - least))
      :: digits bias (place + 36) ((value - least) / (36 - least))
termination_by value
decreasing_by
  have positive := threshold_pos bias place
  have shrinks := Nat.div_le_self (value - threshold bias place) (36 - threshold bias place)
  omega

/-- A number scaled down until it is at most 455, and thirty-six for each step that took. -/
def scaled (number steps : Nat) : Nat × Nat :=
  if 455 < number then scaled (number / 35) (steps + 36) else (number, steps)
termination_by number
decreasing_by exact Nat.div_lt_self (by omega) (by decide)

/-- The bias for the number that follows `number`, after which `count` characters are in place. -/
def nextBias (number count : Nat) (isFirst : Bool) : Nat :=
  let damped := if isFirst then number / 700 else number / 2
  let (rest, steps) := scaled (damped + damped / count) 0
  steps + 36 * rest / (rest + 38)

structure Progress where
  written : List Char
  bias : Nat
  -- What has been passed over since the last insertion.
  passed : Nat
  placed : Nat
  isFirst : Bool

/-- The work after one place of the text, while the characters with the given code are inserted. -/
def Progress.step (code : Nat) (progress : Progress) (char : Char) : Progress :=
  if char.toNat < code then { progress with passed := progress.passed + 1 }
  else if char.toNat = code then
    { written := progress.written ++ digits progress.bias 36 progress.passed
      bias := nextBias progress.passed (progress.placed + 1) progress.isFirst
      passed := 0
      placed := progress.placed + 1
      isFirst := false }
  else progress

/-- The work after all characters with the given codes, where `next` is the least code that has not
been passed over. -/
def Progress.insertAll (chars : List Char) (progress : Progress) (next : Nat) :
    List Nat → Progress
  | [] => progress
  | code :: rest =>
    let reached := progress.passed + (code - next) * (progress.placed + 1)
    let done := chars.foldl (Progress.step code) { progress with passed := reached }
    insertAll chars { done with passed := done.passed + 1 } (code + 1) rest

/-- A number put into an ascending list, unless it is in it. -/
def insertOnce (number : Nat) : List Nat → List Nat
  | [] => [number]
  | first :: rest =>
    if number < first then number :: first :: rest
    else if number = first then first :: rest
    else first :: insertOnce number rest

/-- The text in the characters of ASCII. -/
def chars (text : List Char) : List Char :=
  let basic := text.filter fun char => decide (char.toNat < 128)
  let codes := (text.filter fun char => decide (128 ≤ char.toNat)).foldl
    (fun codes char => insertOnce char.toNat codes) []
  let start : Progress := ⟨[], 72, 0, basic.length, true⟩
  let digits := (start.insertAll text 128 codes).written
  if basic = [] then digits else basic ++ '-' :: digits

def encode (text : String) : Bytes :=
  Bytes.ofChars (chars text.toList)

end Punycode

end LuaBytecode.Text
