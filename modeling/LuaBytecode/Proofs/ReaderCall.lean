import LuaBytecode.Prototype.Reader

/-!
# Calls of readers

What a caller may read at a cursor. Items stand under a header and can be listed, also in lists of
lists. A session is a buffer with a cursor over it: each call starts where the one before it left
the cursor, even if that one failed, and may bring a header of its own.
-/

set_option autoImplicit false

namespace LuaBytecode

/-- The kinds of item that are read under a header. -/
inductive ItemKind where
  | integer
  | size
  | number
  | string
  | name
  | constant
  | instruction
  | localVariable
  | list (item : ItemKind)
  | prototype (options : Options) (depth : Int)

namespace ItemKind

def Value : ItemKind → Type
  | .integer => Nat
  | .size => Nat
  | .number => Number
  | .string => Bytes
  | .name => String
  | .constant => Constant
  | .instruction => Instruction
  | .localVariable => Local
  | .list item => List item.Value
  | .prototype _ _ => Prototype

def reader (header : Header) : (kind : ItemKind) → Reader kind.Value
  | .integer => header.integerField
  | .size => header.sizeField
  | .number => Number.read header
  | .string => header.stringField
  | .name => header.nameField
  | .constant => Constant.read header
  | .instruction => Instruction.read header
  | .localVariable => Local.read header
  | .list item => header.counted (item.reader header)
  | .prototype options depth => Prototype.read header options depth

end ItemKind

/-- A call of a reader. Counts and widths may be negative and a byte order may have any name; such
calls fail. -/
inductive Call where
  | byte
  | bytes (count : Int)
  | unsigned (width : Int) (orderName : String)
  | fileHeader
  | item (header : Header) (kind : ItemKind)

namespace Call

def Value : Call → Type
  | .byte => UInt8
  | .bytes _ => Bytes
  | .unsigned _ _ => Nat
  | .fileHeader => Header
  | .item _ kind => kind.Value

def reader : (call : Call) → Reader call.Value
  | .byte => Reader.byte
  | .bytes count => Reader.field count
  | .unsigned width orderName => Reader.namedUnsigned width orderName
  | .fileHeader => Header.read
  | .item header kind => kind.reader header

end Call

structure Session where
  buffer : Buffer
  cursor : Nat

namespace Session

/-- The session after a call, whether it succeeded or not. -/
def after (session : Session) (call : Call) : Session :=
  { session with cursor := (call.reader session.buffer session.cursor).offset }

def afterAll (session : Session) (calls : List Call) : Session :=
  calls.foldl after session

@[simp] theorem afterAll_nil (session : Session) : session.afterAll [] = session := rfl

@[simp] theorem afterAll_cons (session : Session) (call : Call) (calls : List Call) :
    session.afterAll (call :: calls) = (session.after call).afterAll calls := rfl

@[simp] theorem after_buffer (session : Session) (call : Call) :
    (session.after call).buffer = session.buffer := rfl

end Session

end LuaBytecode
