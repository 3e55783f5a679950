import LuaBytecode.Bytes
import LuaBytecode.Text.Quoted

/-!
# File header

The twelve bytes at the start of a bytecode file. They fix the byte order and the width of every
field that follows, so each later read takes the header as an argument.
-/

set_option autoImplicit false

namespace LuaBytecode

/-- The kinds of field whose width the header declares, in the order it declares them. -/
inductive WidthField where
  | int
  | sizeT
  | instruction
  | number
  deriving DecidableEq, Repr

def WidthField.name : WidthField → String
  | .int => "int"
  | .sizeT => "size_t"
  | .instruction => "instruction"
  | .number => "number"

/-- The declared widths, in bytes. In a file a width is one byte; a header made by a caller may
declare any integer, and a negative width makes every read of such a field fail. -/
structure Widths where
  int : Int
  sizeT : Int
  instruction : Int
  number : Int
  deriving DecidableEq, Repr

/-- The first kind of field, in declaration order, whose width is zero. -/
def Widths.firstZero? (widths : Widths) : Option WidthField :=
  if widths.int = 0 then some .int
  else if widths.sizeT = 0 then some .sizeT
  else if widths.instruction = 0 then some .instruction
  else if widths.number = 0 then some .number
  else none

/-- What a header says after its signature. -/
structure Header where
  version : Int
  format : Int
  endianness : Int
  widths : Widths
  integral : Int
  deriving DecidableEq, Repr

namespace Header

/-- The four bytes every bytecode file starts with: escape, then the language's name. -/
def signature : Bytes := [0x1b, 0x4c, 0x75, 0x61]

def size : Nat := 12

def supportedVersion : Int := 0x51

/-- The version as people write it: the first two characters of its hexadecimal text with a point
between. -/
def versionText (header : Header) : String :=
  String.intercalate "." <| ((Text.signedHexDigits header.version).take 2).map fun digit =>
    String.ofList [digit]

def order (header : Header) : ByteOrder :=
  if header.endianness = 1 then .little else .big

def integralNumbers (header : Header) : Bool :=
  header.integral != 0

/-- A name and a value, as in a list of fields between braces. -/
def entry (name value : String) : String :=
  Text.quoted name ++ ": " ++ value

def braced (entries : List String) : String :=
  "\x7b" ++ String.intercalate ", " entries ++ "\x7d"

def summary (header : Header) : String :=
  let widths := header.widths
  braced [
    entry "signature" (Text.quoted (Bytes.latin1 signature)),
    entry "version" (Text.quoted header.versionText),
    entry "formatVersion" (toString header.format),
    entry "endianess" (toString header.endianness),
    entry "sizes" (braced [
      entry WidthField.int.name (toString widths.int),
      entry WidthField.sizeT.name (toString widths.sizeT),
      entry WidthField.instruction.name (toString widths.instruction),
      entry WidthField.number.name (toString widths.number)]),
    entry "integral" (toString header.integral)]

end Header

end LuaBytecode
