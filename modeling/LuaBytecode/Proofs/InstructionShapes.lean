import LuaBytecode.Proofs.DebugErasure
import LuaBytecode.Proofs.JsonFaithful
import Mathlib.Data.List.Defs

/-!
# The two shapes of instructions

A JSON document has an object for each instruction of a function, or one run of numbers for all of
them. The two documents of a tree differ in nothing else at any level, and the run of numbers, cut
into groups of four, has the values of the objects. Which of the two is asked for is no matter to
the readers, so that the two decodings of a file differ in their options only.
-/

set_option autoImplicit false

namespace LuaBytecode

/-! ## Sequences of instructions -/

/-- The values of an instruction object, in the order in which a run of numbers has them. -/
def Json.operandValues : Json → List Json
  | .object members => ["op", "A", "B", "C"].filterMap fun name => members.lookup name
  | _ => []

namespace Instruction

/-- The two arrays for a sequence of instructions: one object each, and four numbers each. -/
structure InShapes (instructions : List Instruction) (objects numbers : List Json) : Prop where
  one_each : objects = instructions.map objectJson
  four_each : numbers.length = 4 * instructions.length
  groups : numbers.toChunks 4 = objects.map Json.operandValues

theorem operandValues_objectJson (instruction : Instruction) :
    instruction.objectJson.operandValues = instruction.flatJson :=
  rfl

theorem length_sequenceJson_false (instructions : List Instruction) :
    (sequenceJson false instructions).length = 4 * instructions.length := by
  simp [sequenceJson, List.length_flatMap, flatJson, operands, Nat.mul_comm]

/-- Cutting goes on after a full group. Each instruction fills the next group exactly. -/
theorem toChunks_go_sequenceJson (instructions : List Instruction) {group : Array Json}
    (full : group.size = 4) (done : Array (List Json)) :
    List.toChunks.go 4 (sequenceJson false instructions) group done =
      done.toList ++ group.toList :: instructions.map flatJson := by
  induction instructions generalizing group done with
  | nil => simp [sequenceJson, List.toChunks.go]
  | cons first rest ih =>
      have step : List.toChunks.go 4 (sequenceJson false (first :: rest)) group done =
          List.toChunks.go 4 (sequenceJson false rest) first.flatJson.toArray
            (done.push group.toList) := by
        simp [sequenceJson, flatJson, operands, List.toChunks.go, full]
      rw [step, ih rfl]
      simp

theorem toChunks_sequenceJson (instructions : List Instruction) :
    (sequenceJson false instructions).toChunks 4 = instructions.map flatJson := by
  cases instructions with
  | nil => rfl
  | cons first rest =>
      have start : (sequenceJson false (first :: rest)).toChunks 4 =
          List.toChunks.go 4 (sequenceJson false rest) first.flatJson.toArray #[] := by
        simp [sequenceJson, flatJson, operands, List.toChunks, List.toChunks.go]
      rw [start, toChunks_go_sequenceJson rest rfl]
      rfl

theorem inShapes_sequenceJson (instructions : List Instruction) :
    InShapes instructions (sequenceJson true instructions) (sequenceJson false instructions) where
  one_each := rfl
  four_each := length_sequenceJson_false instructions
  groups := by
    rw [toChunks_sequenceJson, sequenceJson, if_pos rfl, List.map_map]
    exact List.map_congr_left fun instruction _ => instruction.operandValues_objectJson.symm

end Instruction

/-! ## Trees -/

namespace FunctionBody

variable (body : FunctionBody) (left right : Json)

theorem names_members :
    (body.members true left).map Prod.fst = (body.members false right).map Prod.fst := by
  simp [members, leadingMembers]

theorem names_debugMembers_sublist :
    (body.debugMembers.map Prod.fst).Sublist Json.debugNames := by
  have optional {α : Type} (name : String) (item : α → Json) (items : Option (List α)) :
      ((Json.optionalMember name item items).map Prod.fst).Sublist [name] := by
    cases items <;> simp [Json.optionalMember]
  rw [debugMembers, List.map_append, List.map_append]
  exact ((optional ..).append (optional ..)).append (optional ..)

theorem nodup_names_members : ((body.members true left).map Prod.fst).Nodup := by
  have names : ((body.members true left).map Prod.fst).Sublist
      (["sourceName", "lineDefined", "lastLineDefined", "upvalueCount", "paramCount", "is_vararg",
        "maxStackSize", "instructions", "constants", "functions"] ++ Json.debugNames) := by
    rw [members, List.map_append, List.map_cons]
    exact (body.names_debugMembers_sublist.cons_cons "functions").append_left _
  exact names.nodup (by decide)

theorem lookup_members {name : String} (notInstructions : name ≠ "instructions")
    (notFunctions : name ≠ "functions") :
    (body.members true left).lookup name = (body.members false right).lookup name := by
  simp only [members, leadingMembers, List.cons_append, List.nil_append, List.lookup_cons,
    beq_false_of_ne notInstructions, beq_false_of_ne notFunctions]

end FunctionBody

namespace Prototype

mutual

/-- Two documents of one tree, the first with objects for the instructions and the second with a run
of numbers, that are the same at every level otherwise. -/
inductive InShapes : Prototype → Json → Json → Prop where
  | intro {body : FunctionBody} {functions : List Prototype} {left right : List (String × Json)}
      {objects numbers leftNested rightNested : List Json}
      (names : left.map Prod.fst = right.map Prod.fst)
      (distinct : (left.map Prod.fst).Nodup)
      (others : ∀ name, name ≠ "instructions" → name ≠ "functions" →
        left.lookup name = right.lookup name)
      (leftInstructions : left.lookup "instructions" = some (.array objects))
      (rightInstructions : right.lookup "instructions" = some (.array numbers))
      (instructions : Instruction.InShapes body.instructions objects numbers)
      (leftFunctions : left.lookup "functions" = some (.array leftNested))
      (rightFunctions : right.lookup "functions" = some (.array rightNested))
      (nested : AllInShapes functions leftNested rightNested) :
      InShapes ⟨body, functions⟩ (.object left) (.object right)

inductive AllInShapes : List Prototype → List Json → List Json → Prop where
  | nil : AllInShapes [] [] []
  | cons {first : Prototype} {rest : List Prototype} {left right : Json}
      {leftRest rightRest : List Json} :
      InShapes first left right → AllInShapes rest leftRest rightRest →
      AllInShapes (first :: rest) (left :: leftRest) (right :: rightRest)

end

mutual

theorem inShapes_toJson : ∀ prototype : Prototype,
    prototype.InShapes (prototype.toJson true) (prototype.toJson false)
  | ⟨body, functions⟩ => by
      refine .intro (body.names_members _ _) (body.nodup_names_members _)
        (fun name => body.lookup_members _ _) ?_ ?_
        (Instruction.inShapes_sequenceJson body.instructions) ?_ ?_
        (allInShapes_allToJson functions)
      -- What is left are the two arrays of each document.
      all_goals simp [FunctionBody.leadingMembers, List.lookup_cons]

theorem allInShapes_allToJson : ∀ functions : List Prototype,
    AllInShapes functions (allToJson true functions) (allToJson false functions)
  | [] => .nil
  | first :: rest => .cons first.inShapes_toJson (allInShapes_allToJson rest)

end

/-! ## Decoding -/

/-- The nested functions are read under the same options, and of the options only the other switch
is looked at. -/
theorem readWithin_objects (header : Header) (strip objects other : Bool) (levels : Nat)
    (depth : Int) :
    readWithin header ⟨strip, objects⟩ levels depth =
      readWithin header ⟨strip, other⟩ levels depth := by
  induction levels generalizing depth with
  | zero => rfl
  | succ levels ih => simp only [readWithin, ih]

end Prototype

def DecodedFile.withObjects (file : DecodedFile) (objects : Bool) : DecodedFile :=
  { file with options := { file.options with instructionObjects := objects } }

theorem decode_objects (data : Bytes) (strip objects : Bool) :
    decode data ⟨strip, objects⟩ =
      ⟨(decode data ⟨strip, false⟩).result.map (·.withObjects objects),
        (decode data ⟨strip, false⟩).offset, (decode data ⟨strip, false⟩).events⟩ := by
  have readers : DecodedFile.read ⟨strip, objects⟩ =
      (·.withObjects objects) <$> DecodedFile.read ⟨strip, false⟩ := by
    simp only [DecodedFile.read, Prototype.read,
      Prototype.readWithin_objects _ strip objects false, map_bind, map_pure]
    rfl
  rw [decode, readers, Reader.map_run]
  rfl

/-- The two documents of a tree carry the same data at every level. The two decodings of a file fail
in the same way, or give the same tree, from which the two documents are made. -/
theorem shapes_agree :
    (∀ root : Prototype, root.InShapes (root.toJson true) (root.toJson false)) ∧
    ∀ (data : Bytes) (strip : Bool),
      let labelledRun := decode data { stripDebugging := strip, instructionObjects := true }
      let flatRun := decode data { stripDebugging := strip, instructionObjects := false }
      labelledRun.events = flatRun.events ∧ labelledRun.offset = flatRun.offset ∧
        ((∃ fault, labelledRun.result = .error fault ∧ flatRun.result = .error fault) ∨
        ∃ labelled flat, labelledRun.result = .ok labelled ∧ flatRun.result = .ok flat ∧
          labelled.header = flat.header ∧ labelled.tree = flat.tree ∧
          labelled.consumed = flat.consumed ∧ labelled.trailing = flat.trailing ∧
          flat.tree.InShapes labelled.toJson flat.toJson) := by
  refine ⟨Prototype.inShapes_toJson, fun data strip => ?_⟩
  intro labelledRun flatRun
  have relabelled : labelledRun = ⟨flatRun.result.map (·.withObjects true), flatRun.offset,
      flatRun.events⟩ := decode_objects data strip true
  rw [relabelled]
  refine ⟨rfl, rfl, ?_⟩
  cases outcome : flatRun.result with
  | error fault => exact .inl ⟨fault, rfl, rfl⟩
  | ok flat =>
      refine .inr ⟨flat.withObjects true, flat, rfl, rfl, rfl, rfl, rfl, rfl, ?_⟩
      obtain ⟨-, -, -, options, -⟩ := decode_eq_ok.mp outcome
      rw [DecodedFile.toJson, DecodedFile.toJson, options]
      exact flat.tree.inShapes_toJson

end LuaBytecode
