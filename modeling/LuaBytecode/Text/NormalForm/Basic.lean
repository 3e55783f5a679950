import LuaBytecode.Text.NormalForm.CombiningClass
import LuaBytecode.Text.NormalForm.Composite
import LuaBytecode.Text.NormalForm.Equivalent

/-!
# Normal form

Texts that are meant to be the same are written in many ways: with composites or with marks, with
marks in another order, with characters that only look different. A text is brought into its normal
form in three steps: every character is taken apart into plain bases and marks, marks after one base
are sorted by their classes, and bases are joined with marks again where there is a composite.
-/

set_option autoImplicit false

namespace LuaBytecode.Text

/-! ## Korean syllables

A syllable is made of a leading consonant, a vowel and perhaps a trailing consonant, and its code is
computed from their places. -/

namespace Syllable

def firstCode : Nat := 0xac00

def firstLead : Nat := 0x1100

def firstVowel : Nat := 0x1161

/-- The code before that of the first trailing consonant; its place is that of none. -/
def noTail : Nat := 0x11a7

def leads : Nat := 19

def vowels : Nat := 21

def tails : Nat := 28

/-- The place of a code among `count` codes from `first` on. -/
def place? (first count code : Nat) : Option Nat :=
  if first ≤ code ∧ code < first + count then some (code - first) else none

def parts? (char : Char) : Option (List Char) :=
  (place? firstCode (leads * vowels * tails) char.toNat).map fun place =>
    let start := [Char.ofNat (firstLead + place / tails / vowels),
      Char.ofNat (firstVowel + place / tails % vowels)]
    if place % tails = 0 then start else start ++ [Char.ofNat (noTail + place % tails)]

/-- The syllable of two consecutive characters: a consonant and a vowel, or a syllable without a
trailing consonant and one. -/
def join? (first second : Char) : Option Char :=
  match place? firstLead leads first.toNat, place? firstVowel vowels second.toNat with
  | some lead, some vowel => some (Char.ofNat (firstCode + (lead * vowels + vowel) * tails))
  | _, _ =>
    match place? firstCode (leads * vowels * tails) first.toNat,
        place? noTail tails second.toNat with
    | some place, some tail =>
      if place % tails = 0 ∧ tail ≠ 0 then some (Char.ofNat (firstCode + place + tail)) else none
    | _, _ => none

end Syllable

namespace NormalForm

/-! ## Taking apart -/

/-- How often a composite is the base of another, and that of another again. -/
def deepest : Nat := 3

/-- The plain bases and marks of a character that is a base with at most so many marks. -/
def unmarked : Nat → Char → List Char
  | 0, char => (plainForm? char).getD [char]
  | marks + 1, char =>
    match baseAndMark? char with
    | some (base, mark) => unmarked marks base ++ [mark]
    | none => (plainForm? char).getD [char]

def parts (char : Char) : List Char :=
  if char.toNat < 128 then [char]
  else (Syllable.parts? char).getD (unmarked deepest char)

/-! ## Sorting marks -/

/-- A character put before sorted ones: a mark is moved behind the marks of lower classes. -/
def placed (char : Char) : List Char → List Char
  | [] => [char]
  | next :: rest =>
    if 0 < combiningClass next ∧ combiningClass next < combiningClass char then
      next :: placed char rest
    else char :: next :: rest

/-- The characters with the marks after each base sorted by their classes. Marks of one class keep
their order. -/
def ordered : List Char → List Char
  | [] => []
  | char :: rest => placed char (ordered rest)

/-! ## Joining -/

def join? (first second : Char) : Option Char :=
  (Syllable.join? first second) <|> (composite? first second)

/-- A base joined with the characters after it as far as they can be reached, and those that are
left. A mark is out of reach behind one that was left and has its class or a higher one, and a base
is out of reach behind any mark that was left; `highest` is the class of the last one left. -/
def absorbed (base : Char) (highest : Nat) : List Char → Char × List Char
  | [] => (base, [])
  | char :: rest =>
    let own := combiningClass char
    if highest ≠ 0 ∧ own = 0 then (base, char :: rest)
    else if highest ≠ 0 ∧ own ≤ highest then
      let (whole, left) := absorbed base highest rest
      (whole, char :: left)
    else
      match join? base char with
      | some joined => absorbed joined highest rest
      | none =>
        if own = 0 then (base, char :: rest)
        else
          let (whole, left) := absorbed base own rest
          (whole, char :: left)

/-- Joining leaves no more characters than there were. -/
theorem length_absorbed_le (base : Char) (highest : Nat) (chars : List Char) :
    (absorbed base highest chars).2.length ≤ chars.length := by
  induction chars generalizing base highest with
  | nil => simp [absorbed]
  | cons char rest ih =>
    simp only [absorbed]
    split
    · exact Nat.le_refl _
    · split
      · exact Nat.succ_le_succ (ih base highest)
      · split
        · exact Nat.le_succ_of_le (ih _ highest)
        · split
          · exact Nat.le_refl _
          · exact Nat.succ_le_succ (ih base _)

/-- The characters with every base joined with what follows it. -/
def composed : List Char → List Char
  | [] => []
  | base :: rest =>
    (absorbed base 0 rest).1 :: composed (absorbed base 0 rest).2
termination_by chars => chars.length
decreasing_by exact Nat.lt_succ_of_le (length_absorbed_le base 0 rest)

end NormalForm

def normalForm (chars : List Char) : List Char :=
  NormalForm.composed (NormalForm.ordered (chars.flatMap NormalForm.parts))

end LuaBytecode.Text
