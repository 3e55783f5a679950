import LuaBytecode.Double.Decimal
import LuaBytecode.Text.Quoted
import LuaBytecode.Text.Utf16

/-!
# JSON values and their text

JSON values whose objects keep the order of their members and whose numbers are exact: an integer of
any size, or a double. The text uses ASCII characters only. It is either compact or indented by a
fixed number of blanks for each level of nesting.
-/

set_option autoImplicit false

namespace LuaBytecode

inductive Json where
  | null
  | boolean (value : Bool)
  | integer (value : Int)
  | double (value : Double)
  | text (value : String)
  | array (items : List Json)
  | object (members : List (String × Json))

instance : Inhabited Json := ⟨.null⟩

namespace Json

/-- Whether a value counts as set when it is given for a switch: nothing, zero and the empty text,
array and object do not, and all else does. -/
def isSet : Json → Bool
  | .null => false
  | .boolean value => value
  | .integer value => value != 0
  | .double value => !value.isFinite || value.magnitude.coefficient != 0
  | .text value => value != ""
  | .array items => !items.isEmpty
  | .object members => !members.isEmpty

/-! ## Text -/

/-- How a floating-point number is written: positionally below 10^16, and always with a point or an
exponent. -/
def numberStyle : Decimal.Style := ⟨16, ['.', '0']⟩

/-- The text of a floating-point number: the fewest digits that read back as the same double. -/
def doubleChars (value : Double) : List Char :=
  value.render numberStyle Double.shortest

def integerChars (value : Int) : List Char :=
  if value < 0 then '-' :: Nat.toDigits 10 value.natAbs else Nat.toDigits 10 value.natAbs

def escapedUnit (unit : Nat) : List Char :=
  '\\' :: 'u' :: Text.hexDigits 4 unit

/-- A character as it stands inside a JSON string. A character past the first 65536 is written as
its two surrogate units. -/
def stringChar (char : Char) : List Char :=
  let code := char.toNat
  if char = '"' then ['\\', '"']
  else if char = '\\' then ['\\', '\\']
  else if char = '\n' then ['\\', 'n']
  else if char = '\r' then ['\\', 'r']
  else if char = '\t' then ['\\', 't']
  else if code = 0x0c then ['\\', 'f']
  else if code = 0x08 then ['\\', 'b']
  else if 0x20 ≤ code ∧ code < 0x7f then [char]
  else (Text.utf16Units char).flatMap escapedUnit

def stringChars (value : String) : List Char :=
  '"' :: (value.toList.flatMap stringChar ++ ['"'])

/-- The white space of a JSON text: what stands before an element at a given level of nesting, and
what separates a member's name from its value. -/
structure Spacing where
  beforeElement : Nat → List Char
  colon : List Char

def Spacing.compact : Spacing := ⟨fun _ => [], [':']⟩

/-- Every element on a line of its own, indented by `width` blanks for each level. -/
def Spacing.indented (width : Nat) : Spacing :=
  ⟨fun level => '\n' :: List.replicate (level * width) ' ', [':', ' ']⟩

/-- An indent is no machine integer. -/
inductive IndentFailure where
  | outOfRange
  deriving DecidableEq, Repr

def IndentFailure.message : IndentFailure → String
  | .outOfRange => "cannot fit 'int' into an index-sized integer"

/-- Indents lie below this size in either direction, the negative bound included. -/
def indentRange : Nat := 0x8000000000000000

def isIndent (width : Int) : Bool :=
  decide (-(indentRange : Int) ≤ width ∧ width < indentRange)

/-- The spacing for a requested indent. A negative indent still breaks lines. -/
def Spacing.ofIndent : Option Int → Except IndentFailure Spacing
  | none => .ok .compact
  | some width => if isIndent width then .ok (.indented width.toNat) else .error .outOfRange

mutual

def chars (spacing : Spacing) (level : Nat) : Json → List Char
  | .null => ['n', 'u', 'l', 'l']
  | .boolean true => ['t', 'r', 'u', 'e']
  | .boolean false => ['f', 'a', 'l', 's', 'e']
  | .integer value => integerChars value
  | .double value => doubleChars value
  | .text value => stringChars value
  | .array [] => ['[', ']']
  | .array (first :: rest) =>
    '[' :: (spacing.beforeElement (level + 1) ++ chars spacing (level + 1) first
      ++ itemChars spacing (level + 1) rest ++ spacing.beforeElement level ++ [']'])
  | .object [] => ['\x7b', '\x7d']
  | .object ((name, value) :: rest) =>
    '\x7b' :: (spacing.beforeElement (level + 1) ++ stringChars name ++ spacing.colon
      ++ chars spacing (level + 1) value ++ memberChars spacing (level + 1) rest
      ++ spacing.beforeElement level ++ ['\x7d'])

/-- The text of the items of an array after the first. -/
def itemChars (spacing : Spacing) (level : Nat) : List Json → List Char
  | [] => []
  | item :: rest =>
    ',' :: (spacing.beforeElement level ++ chars spacing level item
      ++ itemChars spacing level rest)

/-- The text of the members of an object after the first. -/
def memberChars (spacing : Spacing) (level : Nat) : List (String × Json) → List Char
  | [] => []
  | (name, value) :: rest =>
    ',' :: (spacing.beforeElement level ++ stringChars name ++ spacing.colon
      ++ chars spacing level value ++ memberChars spacing level rest)

end

def render (spacing : Spacing) (value : Json) : String :=
  String.ofList (value.chars spacing 0)

end Json

end LuaBytecode
