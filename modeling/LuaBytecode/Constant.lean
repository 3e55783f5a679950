import LuaBytecode.Json.Basic
import LuaBytecode.Number

/-!
# Constants

The entries of a function's constant pool, how they are read, and how they are written in a listing
and in a JSON document.
-/

set_option autoImplicit false

namespace LuaBytecode

inductive Constant where
  | nil
  | boolean (value : Bool)
  | number (value : Number)
  | string (value : Bytes)
  deriving DecidableEq, Repr

inductive NumeralFailure where
  | integerTooLarge
  | tooManyDigits
  deriving DecidableEq, Repr

def NumeralFailure.message : NumeralFailure → String
  | .integerTooLarge => "int too large to convert to float"
  | .tooManyDigits => Text.tooManyDigits

namespace Number

def integerText (value : Int) : Except NumeralFailure String :=
  if Text.isWritable value then .ok (toString value) else .error .tooManyDigits

/-- How a number is written in a listing: positionally below 10^14, a whole number without a
point. -/
def listingStyle : Decimal.Style := ⟨14, []⟩

def listingDigits : Nat := 14

def listingDouble (value : Double) : String :=
  String.ofList (value.render listingStyle (Double.significant listingDigits))

/-- A number as it stands in a listing. An integer is first rounded to the nearest double. -/
def listingText : Number → Except NumeralFailure String
  | .double value => .ok (listingDouble value)
  | .integer value =>
    match Double.ofInteger? value with
    | some nearest => .ok (listingDouble nearest)
    | none => .error .integerTooLarge

/-- Whole doubles below this size, 10^21, are written as integers in a JSON document. -/
def wholeLimit : Nat := 1000000000000000000000

/-- A number as a JSON value. A double that is no number becomes null, and a whole one below the
limit an integer. -/
def toJson : Number → Json
  | .integer value => .integer value
  | .double value =>
    if value.isFinite then
      match value.toInteger? with
      | some whole => if whole.natAbs < wholeLimit then .integer whole else .double value
      | none => .double value
    else .null

end Number

namespace Constant

def read (header : Header) : Reader Constant := do
  let start ← Reader.offset
  let tag ← Reader.byte
  if tag = 0 then
    return .nil
  else if tag = 1 then
    let stored ← Reader.byte
    return .boolean (stored != 0)
  else if tag = 3 then
    let value ← Number.read header
    return .number value
  else if tag = 4 then
    let value ← header.stringField
    return .string value
  else
    Reader.fail (.unknownConstant tag.toNat start)

def listingText : Constant → Except NumeralFailure String
  | .nil => .ok "nil"
  | .boolean true => .ok "true"
  | .boolean false => .ok "false"
  | .number value => value.listingText
  | .string value => .ok ("\"" ++ Bytes.latin1 value ++ "\"")

def toJson : Constant → Json
  | .nil => .null
  | .boolean value => .boolean value
  | .number value => value.toJson
  | .string value => .text (Bytes.latin1 value)

end Constant

end LuaBytecode
