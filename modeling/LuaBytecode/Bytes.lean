/-!
# Bytes and byte order

Byte strings, the two orders in which a multi-byte field may be stored, and the integers such a
field stands for. Composition is exact for every width, so a field of two hundred bytes is read as
faithfully as one of four.
-/

set_option autoImplicit false

namespace LuaBytecode

/-- A finite run of bytes in file order. -/
abbrev Bytes := List UInt8

namespace Bytes

/-- The natural number whose bytes, least significant first, are the given ones. -/
def littleEndian : Bytes → Nat
  | [] => 0
  | byte :: rest => byte.toNat + 256 * littleEndian rest

/-- The `width` low bytes of a natural number, least significant first. -/
def ofNat : (width value : Nat) → Bytes
  | 0, _ => []
  | width + 1, value => UInt8.ofNat value :: ofNat width (value / 256)

def latin1 (bytes : Bytes) : String :=
  String.ofList (bytes.map Char.ofUInt8)

/-- The bytes before the first zero byte, or all of them when there is none. -/
def beforeZero (bytes : Bytes) : Bytes :=
  bytes.takeWhile (· != 0)

/-- The bytes whose codes are those of the given characters, which must lie below 256. -/
def ofChars (chars : List Char) : Bytes :=
  chars.map fun char => UInt8.ofNat char.toNat

def ofText (text : String) : Bytes :=
  text.toUTF8.data.toList

end Bytes

inductive ByteOrder where
  | little
  | big
  deriving DecidableEq, Repr

namespace ByteOrder

def name : ByteOrder → String
  | .little => "little"
  | .big => "big"

/-- The order a word names, if it names one. Letter case matters. -/
def ofName? (word : String) : Option ByteOrder :=
  if word = "little" then some .little
  else if word = "big" then some .big
  else none

/-- The same bytes with the least significant one first. -/
def leastFirst : ByteOrder → Bytes → Bytes
  | .little, bytes => bytes
  | .big, bytes => bytes.reverse

/-- The unsigned integer stored in `bytes`. No bytes at all stand for zero. -/
def unsigned (order : ByteOrder) (bytes : Bytes) : Nat :=
  Bytes.littleEndian (order.leastFirst bytes)

@[simp] theorem length_leastFirst (order : ByteOrder) (bytes : Bytes) :
    (order.leastFirst bytes).length = bytes.length := by
  cases order <;> simp [leastFirst]

/-- The bytes in which a field of the given width stores an unsigned integer. -/
def field (order : ByteOrder) (width value : Nat) : Bytes :=
  order.leastFirst (Bytes.ofNat width value)

/-- The two's complement integer stored in `bytes`. -/
def signed (order : ByteOrder) (bytes : Bytes) : Int :=
  let value := order.unsigned bytes
  let range := Nat.pow 256 bytes.length
  if 2 * value < range then value else (value : Int) - range

end ByteOrder

end LuaBytecode
