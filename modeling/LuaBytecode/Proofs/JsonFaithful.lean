import LuaBytecode.Json.Document
import LuaBytecode.Proofs.ExactValue
import LuaBytecode.Proofs.InstructionWord
import LuaBytecode.Proofs.ParseTree

/-!
# What a JSON document keeps

Two decoded files with the same JSON value have the same tree of functions, field by field, up to
what a JSON value cannot tell: a number is kept as its exact value, one without a value looks like
nil, and of an instruction's word only the low thirty-two bits are kept.
-/

set_option autoImplicit false

namespace LuaBytecode

namespace Json

/-- Equality of JSON values. Numbers are compared by their exact values, whether they are written as
integers or as doubles, and the members of objects by their names. A truth value is no number. -/
inductive Same : Json → Json → Prop where
  | refl (value : Json) : Same value value
  | number {left right : Json} {value : ℚ} (leftValue : left.exactValue? = some value)
      (rightValue : right.exactValue? = some value) : Same left right
  | array {left right : List Json} (items : List.Forall₂ Same left right) :
      Same (.array left) (.array right)
  | object {left right : List (String × Json)}
      (members : ∀ name, Option.Rel Same (left.lookup name) (right.lookup name)) :
      Same (.object left) (.object right)

@[simp] theorem same_integer {left right : Int} :
    (Json.integer left).Same (.integer right) ↔ left = right := by
  constructor
  · intro same
    cases same with
    | refl => rfl
    | number leftValue rightValue =>
        have cast : (left : ℚ) = right :=
          (Option.some.inj leftValue).trans (Option.some.inj rightValue).symm
        exact_mod_cast cast
  · rintro rfl
    exact .refl _

@[simp] theorem same_text {left right : String} :
    (Json.text left).Same (.text right) ↔ left = right := by
  constructor
  · intro same
    cases same with
    | refl => rfl
    | number leftValue _ => cases leftValue
  · rintro rfl
    exact .refl _

@[simp] theorem same_array {left right : List Json} :
    (Json.array left).Same (.array right) ↔ List.Forall₂ Same left right := by
  constructor
  · intro same
    cases same with
    | refl => exact List.forall₂_same.mpr fun item _ => .refl item
    | number leftValue _ => cases leftValue
    | array items => exact items
  · exact .array

theorem Same.members {left right : List (String × Json)}
    (same : (Json.object left).Same (.object right)) (name : String) :
    Option.Rel Same (left.lookup name) (right.lookup name) := by
  cases same with
  | refl =>
      cases left.lookup name with
      | none => exact .none
      | some value => exact .some (.refl value)
  | number leftValue _ => cases leftValue
  | object members => exact members name

theorem eq_of_forall₂_map {α : Type} {item : α → Json}
    (injective : ∀ a b, (item a).Same (item b) → a = b) {left right : List α}
    (same : List.Forall₂ Same (left.map item) (right.map item)) : left = right := by
  rw [List.forall₂_map_left_iff, List.forall₂_map_right_iff] at same
  have equal := same.imp injective
  rwa [List.forall₂_eq_eq_eq] at equal

theorem lookup_optionalMember {α : Type} (name other : String) (item : α → Json)
    (items : Option (List α)) :
    (optionalMember other item items).lookup name =
      if name = other then items.map fun items => .array (items.map item) else none := by
  cases items with
  | none => simp [optionalMember]
  | some items =>
      by_cases same : name = other
      · simp [optionalMember, same]
      · have unequal : (name == other) = false := by simpa using same
        simp [optionalMember, List.lookup_cons, same, unequal]

/-- A member that may be left out is found on both sides or on neither. -/
theorem eq_of_rel_arrays {α : Type} {item : α → Json}
    (injective : ∀ a b, (item a).Same (item b) → a = b) {left right : Option (List α)}
    (same : Option.Rel Same (left.map fun items => .array (items.map item))
      (right.map fun items => .array (items.map item))) : left = right := by
  cases left with
  | none =>
      cases right with
      | none => rfl
      | some _ => cases same
  | some left =>
      cases right with
      | none => cases same
      | some right =>
          rw [Option.map_some, Option.map_some, Option.rel_some_some, same_array] at same
          rw [eq_of_forall₂_map injective same]

end Json

/-! ## Constants -/

/-- Constants that have the same JSON value: equal ones, nil and a number without a value, and
numbers that differ only in how they are represented. -/
inductive Constant.Agrees : Constant → Constant → Prop where
  | same (constant : Constant) : Agrees constant constant
  | nilLeft {number : Number} : number.exactValue? = none → Agrees .nil (.number number)
  | nilRight {number : Number} : number.exactValue? = none → Agrees (.number number) .nil
  | number {left right : Number} {value : ℚ} : left.exactValue? = some value →
      right.exactValue? = some value → Agrees (.number left) (.number right)

theorem Bytes.latin1_injective {left right : Bytes}
    (same : Bytes.latin1 left = Bytes.latin1 right) : left = right := by
  have chars : left.map Char.ofUInt8 = right.map Char.ofUInt8 := String.ofList_injective same
  refine List.map_injective_iff.mpr ?_ chars
  intro byte other equal
  exact UInt8.toNat_inj.mp (congrArg Char.toNat equal)

namespace Constant

/-- Of the doubles without a value, reading gives only one. -/
def IsSimple (constant : Constant) : Prop :=
  ∀ value, constant = .number (.double value) → value.IsSimple

private theorem eq_of_no_value {left right : Number} (leftSimple : IsSimple (.number left))
    (rightSimple : IsSimple (.number right)) (leftNone : left.exactValue? = none)
    (rightNone : right.exactValue? = none) : left = right := by
  cases left with
  | integer value => cases leftNone
  | double left =>
      cases right with
      | integer value => cases rightNone
      | double right =>
          rw [(leftSimple left rfl).eq_infinity leftNone,
            (rightSimple right rfl).eq_infinity rightNone]

private theorem number_agrees {left right : Number} (leftSimple : IsSimple (.number left))
    (rightSimple : IsSimple (.number right)) (values : left.exactValue? = right.exactValue?) :
    Agrees (.number left) (.number right) := by
  cases found : left.exactValue? with
  | none =>
      rw [eq_of_no_value leftSimple rightSimple found (values ▸ found)]
      exact .same _
  | some value => exact .number found (values ▸ found)

private theorem toJson_eq_or_exactValue {left right : Constant}
    (same : left.toJson.Same right.toJson) :
    left.toJson = right.toJson ∨ ∃ value, left.toJson.exactValue? = some value ∧
      right.toJson.exactValue? = some value := by
  have noContainer : (∀ items, left.toJson ≠ .array items) ∧
      ∀ members, left.toJson ≠ .object members := by
    cases left with
    | nil => simp [toJson]
    | boolean value => simp [toJson]
    | string value => simp [toJson]
    | number value =>
        rcases value.toJson_cases with ⟨shown, -⟩ | ⟨_, shown, -⟩ | ⟨_, shown, -⟩ <;>
          simp [toJson, shown]
  generalize left.toJson = first at same noContainer
  generalize right.toJson = second at same
  cases same with
  | refl => exact .inl rfl
  | number leftValue rightValue => exact .inr ⟨_, leftValue, rightValue⟩
  | array _ => exact absurd rfl (noContainer.1 _)
  | object _ => exact absurd rfl (noContainer.2 _)

private theorem number_eq_of_toJson {number : Number} {other : Constant}
    (equal : number.toJson = other.toJson) : other = .nil ∨ ∃ value, other = .number value := by
  cases other with
  | nil => exact .inl rfl
  | number value => exact .inr ⟨value, rfl⟩
  | boolean _ | string _ =>
      rcases number.toJson_cases with ⟨shown, -⟩ | ⟨_, shown, -⟩ | ⟨_, shown, -⟩ <;>
        rw [shown] at equal <;> cases equal

theorem agrees_of_same {left right : Constant} (leftSimple : left.IsSimple)
    (rightSimple : right.IsSimple) (same : left.toJson.Same right.toJson) : left.Agrees right := by
  rcases toJson_eq_or_exactValue same with equal | ⟨value, leftValue, rightValue⟩
  · cases left with
    | nil =>
        cases right with
        | nil => exact .same _
        | number right => exact .nilLeft (Number.toJson_eq_null.mp equal.symm)
        | boolean _ => cases equal
        | string _ => cases equal
    | boolean value =>
        cases right with
        | boolean other => exact Json.boolean.inj equal ▸ .same _
        | number right => rcases number_eq_of_toJson equal.symm with h | ⟨_, h⟩ <;> cases h
        | nil => cases equal
        | string _ => cases equal
    | string value =>
        cases right with
        | string other => exact Bytes.latin1_injective (Json.text.inj equal) ▸ .same _
        | number right => rcases number_eq_of_toJson equal.symm with h | ⟨_, h⟩ <;> cases h
        | nil => cases equal
        | boolean _ => cases equal
    | number left =>
        rcases number_eq_of_toJson equal with rfl | ⟨right, rfl⟩
        · exact .nilRight (Number.toJson_eq_null.mp equal)
        · refine number_agrees leftSimple rightSimple ?_
          rw [← left.exactValue?_toJson, ← right.exactValue?_toJson]
          exact congrArg Json.exactValue? equal
  · cases left with
    | number left =>
        cases right with
        | number right =>
            refine number_agrees leftSimple rightSimple ?_
            rw [← left.exactValue?_toJson, ← right.exactValue?_toJson]
            exact leftValue.trans rightValue.symm
        | nil => cases rightValue
        | boolean _ => cases rightValue
        | string _ => cases rightValue
    | nil => cases leftValue
    | boolean _ => cases leftValue
    | string _ => cases leftValue

theorem forall₂_agrees {left right : List Constant}
    (leftSimple : ∀ constant ∈ left, constant.IsSimple)
    (rightSimple : ∀ constant ∈ right, constant.IsSimple)
    (same : List.Forall₂ (fun a b => a.toJson.Same b.toJson) left right) :
    List.Forall₂ Agrees left right := by
  induction same with
  | nil => exact .nil
  | cons first _ ih =>
      obtain ⟨leftFirst, leftOthers⟩ := List.forall_mem_cons.mp leftSimple
      obtain ⟨rightFirst, rightOthers⟩ := List.forall_mem_cons.mp rightSimple
      exact .cons (agrees_of_same leftFirst rightFirst first) (ih leftOthers rightOthers)

end Constant

/-! ## Functions -/

namespace Instruction

theorem operands_of_same {left right : Instruction} {objects : Bool}
    {leftRest rightRest : List Instruction}
    (same : List.Forall₂ Json.Same (sequenceJson objects (left :: leftRest))
      (sequenceJson objects (right :: rightRest))) :
    left.operands = right.operands ∧ List.Forall₂ Json.Same (sequenceJson objects leftRest)
      (sequenceJson objects rightRest) := by
  cases objects with
  | false =>
      simp only [sequenceJson, Bool.false_eq_true, if_false, List.flatMap_cons, flatJson, operands,
        List.map_cons, List.map_nil, List.cons_append, List.nil_append, List.forall₂_cons,
        Json.same_integer] at same ⊢
      obtain ⟨opcode, a, b, c, later⟩ := same
      exact ⟨by rw [opcode, a, b, c], later⟩
  | true =>
      simp only [sequenceJson, if_true, List.map_cons, objectJson, List.forall₂_cons] at same ⊢
      obtain ⟨first, later⟩ := same
      have opcode : left.opcode = right.opcode := by simpa using first.members "op"
      have a : left.a = right.a := by simpa [List.lookup_cons] using first.members "A"
      have b : left.b = right.b := by simpa [List.lookup_cons] using first.members "B"
      have c : left.c = right.c := by simpa [List.lookup_cons] using first.members "C"
      exact ⟨by rw [operands, operands, opcode, a, b, c], later⟩

theorem agrees_of_same {objects : Bool} {left right : List Instruction}
    (leftDecoded : ∀ instruction ∈ left, ∃ word, instruction = ofWord word)
    (rightDecoded : ∀ instruction ∈ right, ∃ word, instruction = ofWord word)
    (same : List.Forall₂ Json.Same (sequenceJson objects left) (sequenceJson objects right)) :
    List.Forall₂ Agrees left right := by
  -- Each instruction starts an array of its own length, so the arrays are cut at the same places.
  induction left generalizing right with
  | nil =>
      cases right with
      | nil => exact .nil
      | cons _ _ => cases objects <;> cases same
  | cons first rest ih =>
      cases right with
      | nil => cases objects <;> cases same
      | cons other others =>
          obtain ⟨word, rfl⟩ := leftDecoded first List.mem_cons_self
          obtain ⟨otherWord, rfl⟩ := rightDecoded other List.mem_cons_self
          obtain ⟨operands, later⟩ := operands_of_same same
          refine .cons (agrees_of_operands operands) (ih ?_ ?_ later)
          · exact fun instruction member => leftDecoded _ (List.mem_cons_of_mem _ member)
          · exact fun instruction member => rightDecoded _ (List.mem_cons_of_mem _ member)

end Instruction

theorem Local.eq_of_same (left right : Local) (same : left.toJson.Same right.toJson) :
    left = right := by
  have name : left.name = right.name := by simpa using same.members "varname"
  have startpc : left.startpc = right.startpc := by
    simpa [List.lookup_cons] using same.members "startpc"
  have endpc : left.endpc = right.endpc := by
    simpa [List.lookup_cons] using same.members "endpc"
  obtain ⟨leftName, leftStart, leftEnd⟩ := left
  exact Local.mk.injEq .. ▸ ⟨name, startpc, endpc⟩

namespace FunctionBody

/-- What reading promises of the instructions and the constants of a function. -/
structure IsDecoded (body : FunctionBody) : Prop where
  instructions : ∀ instruction ∈ body.instructions, ∃ word, instruction = Instruction.ofWord word
  constants : ∀ constant ∈ body.constants, constant.IsSimple

/-- The same function up to what a JSON document gives up. -/
structure Agrees (left right : FunctionBody) : Prop where
  source : left.source = right.source
  lineDefined : left.lineDefined = right.lineDefined
  lastLineDefined : left.lastLineDefined = right.lastLineDefined
  upvalueCount : left.upvalueCount = right.upvalueCount
  paramCount : left.paramCount = right.paramCount
  vararg : left.vararg = right.vararg
  maxStackSize : left.maxStackSize = right.maxStackSize
  instructions : List.Forall₂ Instruction.Agrees left.instructions right.instructions
  constants : List.Forall₂ Constant.Agrees left.constants right.constants
  linePositions : left.linePositions = right.linePositions
  locals : left.locals = right.locals
  upvalues : left.upvalues = right.upvalues

/-- The members of a function's object, with a value for its nested functions. -/
def members (objects : Bool) (body : FunctionBody) (functions : Json) :
    List (String × Json) :=
  body.leadingMembers objects ++ ("functions", functions) :: body.debugMembers

section Members

variable {objects : Bool} {left right : FunctionBody} {leftFunctions rightFunctions : Json}
  (same : (Json.object (left.members objects leftFunctions)).Same
    (.object (right.members objects rightFunctions)))
include same

theorem leading_of_same :
    left.source = right.source ∧ left.lineDefined = right.lineDefined ∧
      left.lastLineDefined = right.lastLineDefined ∧ left.upvalueCount = right.upvalueCount ∧
      left.paramCount = right.paramCount ∧ left.vararg = right.vararg ∧
      left.maxStackSize = right.maxStackSize := by
  refine ⟨?_, ?_, ?_, ?_, ?_, ?_, ?_⟩
  · simpa [members, leadingMembers] using same.members "sourceName"
  · simpa [members, leadingMembers, List.lookup_cons] using same.members "lineDefined"
  · simpa [members, leadingMembers, List.lookup_cons] using same.members "lastLineDefined"
  · simpa [members, leadingMembers, List.lookup_cons] using same.members "upvalueCount"
  · simpa [members, leadingMembers, List.lookup_cons] using same.members "paramCount"
  · simpa [members, leadingMembers, List.lookup_cons] using same.members "is_vararg"
  · simpa [members, leadingMembers, List.lookup_cons] using same.members "maxStackSize"

theorem arrays_of_same :
    List.Forall₂ Json.Same (Instruction.sequenceJson objects left.instructions)
        (Instruction.sequenceJson objects right.instructions) ∧
      List.Forall₂ (fun a b => a.toJson.Same b.toJson) left.constants right.constants ∧
      leftFunctions.Same rightFunctions := by
  refine ⟨?_, ?_, ?_⟩
  · simpa [members, leadingMembers, List.lookup_cons] using same.members "instructions"
  · simpa [members, leadingMembers, List.lookup_cons] using same.members "constants"
  · simpa [members, leadingMembers, List.lookup_cons] using same.members "functions"

theorem debugging_of_same :
    left.linePositions = right.linePositions ∧ left.locals = right.locals ∧
      left.upvalues = right.upvalues := by
  have found (body : FunctionBody) (functions : Json) :
      (body.members objects functions).lookup "linePositions" =
          body.linePositions.map (fun items => .array (items.map .integer)) ∧
        (body.members objects functions).lookup "locals" =
          body.locals.map (fun items => .array (items.map Local.toJson)) ∧
        (body.members objects functions).lookup "upvalues" =
          body.upvalues.map (fun items => .array (items.map .text)) := by
    simp [members, leadingMembers, debugMembers, List.lookup_cons, List.lookup_append,
      Json.lookup_optionalMember]
  have linePositions := same.members "linePositions"
  have locals := same.members "locals"
  have upvalues := same.members "upvalues"
  rw [(found _ _).1, (found _ _).1] at linePositions
  rw [(found _ _).2.1, (found _ _).2.1] at locals
  rw [(found _ _).2.2, (found _ _).2.2] at upvalues
  exact ⟨Json.eq_of_rel_arrays (fun _ _ => Json.same_integer.mp) linePositions,
    Json.eq_of_rel_arrays Local.eq_of_same locals,
    Json.eq_of_rel_arrays (fun _ _ => Json.same_text.mp) upvalues⟩

theorem agrees_of_same (leftDecoded : left.IsDecoded) (rightDecoded : right.IsDecoded) :
    left.Agrees right ∧ leftFunctions.Same rightFunctions := by
  obtain ⟨source, lineDefined, lastLineDefined, upvalueCount, paramCount, vararg, maxStackSize⟩ :=
    leading_of_same same
  obtain ⟨instructions, constants, functions⟩ := arrays_of_same same
  obtain ⟨linePositions, locals, upvalues⟩ := debugging_of_same same
  refine ⟨?_, functions⟩
  exact {
    source, lineDefined, lastLineDefined, upvalueCount, paramCount, vararg, maxStackSize
    instructions := Instruction.agrees_of_same leftDecoded.instructions
      rightDecoded.instructions instructions
    constants := Constant.forall₂_agrees leftDecoded.constants rightDecoded.constants constants
    linePositions, locals, upvalues }

end Members

end FunctionBody

namespace Prototype

/-- The same tree up to what a JSON document gives up. -/
inductive Agrees : Prototype → Prototype → Prop where
  | intro {body otherBody : FunctionBody} {functions otherFunctions : List Prototype} :
      body.Agrees otherBody → List.Forall₂ Agrees functions otherFunctions →
      Agrees ⟨body, functions⟩ ⟨otherBody, otherFunctions⟩

mutual

theorem agrees_of_same {objects : Bool} : ∀ {left right : Prototype},
    (∀ function ∈ left.walk, function.body.IsDecoded) →
    (∀ function ∈ right.walk, function.body.IsDecoded) →
    (left.toJson objects).Same (right.toJson objects) → left.Agrees right
  | ⟨body, functions⟩, ⟨otherBody, otherFunctions⟩, leftDecoded, rightDecoded, same => by
      simp only [walk, List.forall_mem_cons] at leftDecoded rightDecoded
      obtain ⟨bodies, nested⟩ := FunctionBody.agrees_of_same same leftDecoded.1 rightDecoded.1
      exact .intro bodies
        (allAgree_of_same leftDecoded.2 rightDecoded.2 (Json.same_array.mp nested))

theorem allAgree_of_same {objects : Bool} : ∀ {left right : List Prototype},
    (∀ function ∈ walkAll left, function.body.IsDecoded) →
    (∀ function ∈ walkAll right, function.body.IsDecoded) →
    List.Forall₂ Json.Same (allToJson objects left) (allToJson objects right) →
    List.Forall₂ Agrees left right
  | [], [], _, _, _ => .nil
  | [], _ :: _, _, _, same => by cases same
  | _ :: _, [], _, _, same => by cases same
  | first :: rest, other :: others, leftDecoded, rightDecoded, same => by
      simp only [walkAll, List.forall_mem_append] at leftDecoded rightDecoded
      rw [allToJson, allToJson, List.forall₂_cons] at same
      exact .cons (agrees_of_same leftDecoded.1 rightDecoded.1 same.1)
        (allAgree_of_same leftDecoded.2 rightDecoded.2 same.2)

end

end Prototype

/-! ## Files -/

theorem isDecoded_of_decode {data : Bytes} {options : Options} {file : DecodedFile}
    (succeeded : (decode data options).result = .ok file) :
    ∀ function ∈ file.tree.walk, function.body.IsDecoded := by
  intro function member
  obtain ⟨root, -, -, -, -, -, -, meaning⟩ :=
    encodeFile_of_decode Vocabulary.raw_exhaustive succeeded
  rw [meaning] at member
  obtain ⟨body, stored⟩ := StoredFunction.mem_walk_meaning _ _ root function member
  rw [stored]
  constructor
  · intro instruction inBody
    obtain ⟨word, -, rfl⟩ := List.mem_map.mp inBody
    exact ⟨_, rfl⟩
  · intro constant inBody value isNumber
    obtain ⟨raw, -, rfl⟩ := List.mem_map.mp inBody
    cases raw with
    | number raw => exact Number.isSimple_of_ofBytes (Constant.number.inj isNumber)
    | nil => cases isNumber
    | boolean _ => cases isNumber
    | string _ => cases isNumber

/-- Files with equal JSON values are the same up to what JSON cannot tell. -/
theorem decode_faithful {data otherData : Bytes} {options : Options} {file otherFile : DecodedFile}
    (succeeded : (decode data options).result = .ok file)
    (otherSucceeded : (decode otherData options).result = .ok otherFile)
    (same : file.toJson.Same otherFile.toJson) : file.tree.Agrees otherFile.tree := by
  obtain ⟨-, -, -, options, -⟩ := decode_eq_ok.mp succeeded
  obtain ⟨-, -, -, otherOptions, -⟩ := decode_eq_ok.mp otherSucceeded
  rw [DecodedFile.toJson, DecodedFile.toJson, options, otherOptions] at same
  exact Prototype.agrees_of_same (isDecoded_of_decode succeeded)
    (isDecoded_of_decode otherSucceeded) same

/-- A file with integer numbers that holds the constants nil and three. -/
def integerFile : Bytes :=
  [0x1b, 0x4c, 0x75, 0x61, 0x51, 0, 1, 1, 1, 4, 8, 1,
    0, 0, 0, 0, 0, 2, 2,
    1, 0x1e, 0, 0, 0,
    2, 0, 3, 3, 0, 0, 0, 0, 0, 0, 0,
    0, 0, 0, 0]

/-- A file with wider instructions and with doubles, that holds the constants infinity and three. -/
def doubleFile : Bytes :=
  [0x1b, 0x4c, 0x75, 0x61, 0x51, 0, 1, 1, 1, 5, 8, 0,
    0, 0, 0, 0, 0, 2, 2,
    1, 0x1e, 0, 0, 0, 1,
    2, 3, 0, 0, 0, 0, 0, 0, 0xf0, 0x7f, 3, 0, 0, 0, 0, 0, 0, 8, 0x40,
    0, 0, 0, 0]

/-- The content of both files, apart from the word of their only instruction and the constants. -/
def twinBody (word : Int) (constants : List Constant) : FunctionBody :=
  ⟨"", 0, 0, 0, 0, 2, 2, [⟨30, 0, 0, 0, .abc, word⟩], constants, some [], some [], some []⟩

def integerTwin : DecodedFile :=
  ⟨⟨0x51, 0, 1, ⟨1, 1, 4, 8⟩, 1⟩, ⟨twinBody 0x1e [.nil, .number (.integer 3)], []⟩, {}, 39, 0⟩

def doubleTwin : DecodedFile :=
  ⟨⟨0x51, 0, 1, ⟨1, 1, 5, 8⟩, 0⟩,
    ⟨twinBody 0x10000001e [.number (.double .infinity),
      .number (.double (.ofBits 0x4008000000000000))], []⟩, {}, 48, 0⟩

theorem decode_faithful_twins :
    (decode integerFile {}).result = .ok integerTwin ∧
      (decode doubleFile {}).result = .ok doubleTwin ∧
      integerTwin.toJson = doubleTwin.toJson ∧ integerTwin.tree.Agrees doubleTwin.tree := by
  have succeeded : (decode integerFile {}).result = .ok integerTwin := rfl
  have otherSucceeded : (decode doubleFile {}).result = .ok doubleTwin := rfl
  have equal : integerTwin.toJson = doubleTwin.toJson := rfl
  refine ⟨succeeded, otherSucceeded, equal, decode_faithful succeeded otherSucceeded ?_⟩
  rw [equal]
  exact .refl _

end LuaBytecode
