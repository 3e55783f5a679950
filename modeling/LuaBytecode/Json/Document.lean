import LuaBytecode.DecodedFile

/-!
# JSON documents

The tree of prototypes as a JSON value. Debug information that was left out has no member.
-/

set_option autoImplicit false

namespace LuaBytecode

def Local.toJson (entry : Local) : Json :=
  .object [("varname", .text entry.name), ("startpc", .integer entry.startpc),
    ("endpc", .integer entry.endpc)]

def Json.optionalMember {α : Type} (name : String) (item : α → Json) :
    Option (List α) → List (String × Json)
  | none => []
  | some items => [(name, .array (items.map item))]

/-- The members of a prototype's object before the nested prototypes. -/
def FunctionBody.leadingMembers (objects : Bool) (body : FunctionBody) : List (String × Json) := [
  ("sourceName", .text body.source),
  ("lineDefined", .integer body.lineDefined),
  ("lastLineDefined", .integer body.lastLineDefined),
  ("upvalueCount", .integer body.upvalueCount),
  ("paramCount", .integer body.paramCount),
  ("is_vararg", .integer body.vararg),
  ("maxStackSize", .integer body.maxStackSize),
  ("instructions", .array (Instruction.sequenceJson objects body.instructions)),
  ("constants", .array (body.constants.map Constant.toJson))]

/-- The members of a prototype's object after the nested prototypes. -/
def FunctionBody.debugMembers (body : FunctionBody) : List (String × Json) :=
  Json.optionalMember "linePositions" .integer body.linePositions
    ++ Json.optionalMember "locals" Local.toJson body.locals
    ++ Json.optionalMember "upvalues" .text body.upvalues

namespace Prototype

mutual

def toJson (objects : Bool) : Prototype → Json
  | ⟨body, functions⟩ =>
    .object (body.leadingMembers objects ++ ("functions", .array (allToJson objects functions))
      :: body.debugMembers)

def allToJson (objects : Bool) : List Prototype → List Json
  | [] => []
  | first :: rest => first.toJson objects :: allToJson objects rest

end

end Prototype

namespace DecodedFile

def toJson (result : DecodedFile) : Json :=
  result.tree.toJson result.options.instructionObjects

/-- The JSON text of a decoded file, indented if an indent is given, whatever memory it takes. -/
def jsonText (result : DecodedFile) (indent : Option Int) :
    Except Json.IndentFailure String :=
  (Json.Spacing.ofIndent indent).map result.toJson.render

end DecodedFile

end LuaBytecode
