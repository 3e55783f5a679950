import LuaBytecode.Json.Basic

/-!
# Options

The two switches of a decoding run, and how they are taken from named settings. Each switch has two
names, which mean the same.
-/

set_option autoImplicit false

namespace LuaBytecode

/-- The switches of a decoding run: to leave line positions, locals and upvalue names out, and to
write each instruction of a JSON document as an object. -/
structure Options where
  stripDebugging : Bool := false
  instructionObjects : Bool := false
  deriving DecidableEq, Repr

inductive Switch where
  | stripDebugging
  | instructionObjects
  deriving DecidableEq, Repr

def Switch.ofName? (name : String) : Option Switch :=
  if name = "strip_debugging" ∨ name = "stripDebugging" then some .stripDebugging
  else if name = "use_instruction_objects" ∨ name = "useInstructionObjects" then
    some .instructionObjects
  else none

structure UnknownOption where
  name : String
  deriving DecidableEq, Repr

def UnknownOption.message (unknown : UnknownOption) : String :=
  s!"Unknown decode option: {Text.quoted unknown.name}"

/-- The settings after one more. A name that has a setting already keeps its place and takes the new
value. -/
def putSetting (settings : List (String × Json)) (name : String) (value : Json) :
    List (String × Json) :=
  if settings.any (·.1 == name) then
    settings.map fun setting => if setting.1 = name then (name, value) else setting
  else settings ++ [(name, value)]

/-- One setting for each name: it stands where the name first occurs and has the value given
last. -/
def lastValues (settings : List (String × Json)) : List (String × Json) :=
  settings.foldl (fun done (name, value) => putSetting done name value) []

namespace Options

def set (options : Options) (switch : Switch) (value : Bool) : Options :=
  match switch with
  | .stripDebugging => { options with stripDebugging := value }
  | .instructionObjects => { options with instructionObjects := value }

/-- The options with the given settings made in order. A later setting of a switch overrides an
earlier one, and the first unknown name ends the work. -/
def withSettings (options : Options) : List (String × Json) → Except UnknownOption Options
  | [] => .ok options
  | (name, value) :: rest =>
    match Switch.ofName? name with
    | none => .error ⟨name⟩
    | some switch => (options.set switch value.isSet).withSettings rest

/-- The options that settings stand for; a switch without a setting is off. -/
def ofSettings (settings : List (String × Json)) : Except UnknownOption Options :=
  ({} : Options).withSettings (lastValues settings)

end Options

end LuaBytecode
