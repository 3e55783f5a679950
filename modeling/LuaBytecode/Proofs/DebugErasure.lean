import LuaBytecode.Json.Document
import LuaBytecode.Proofs.ParseTree

/-!
# Leaving out debug information

Decoding without debug information is decoding with it and erasing it afterwards. On the readers
this is an equation: the one reader is the other with the erasure mapped over its value, so the two
runs have the same cursor, the same events and the same failure. On JSON documents the erasure is
the deletion of three members from every function object.
-/

set_option autoImplicit false

namespace LuaBytecode

/-! ## Mapping over readers -/

namespace Reader

variable {α β : Type}

theorem map_run (change : α → β) (reader : Reader α) (buffer : Buffer) (start : Nat) :
    (change <$> reader) buffer start =
      ⟨(reader buffer start).result.map change, (reader buffer start).offset,
        (reader buffer start).events⟩ := by
  rw [map_eq_pure_bind]
  cases outcome : (reader buffer start).result with
  | error fault => rw [bind_of_error outcome]; rfl
  | ok value => rw [bind_of_ok outcome]; simp [pure, Reader.pure, Except.map]

@[simp] theorem map_fail (change : α → β) (fault : Fault) :
    change <$> (fail fault : Reader α) = fail fault := by
  funext buffer start
  rw [map_run]
  rfl

theorem items_map (change : α → β) (item : Reader α) (count : Nat) :
    items (change <$> item) count = List.map change <$> items item count := by
  induction count with
  | zero => exact (map_pure (f := Reader) (List.map change) []).symm
  | succ count ih => simp only [items, ih, map_bind, bind_map_left, map_pure, List.map_cons]

end Reader

theorem Header.counted_map {α β : Type} (header : Header) (change : α → β) (item : Reader α) :
    header.counted (change <$> item) = List.map change <$> header.counted item := by
  simp only [Header.counted, Reader.items_map, map_bind]

/-! ## Erasure -/

/-- The body without its debug information, and otherwise the same. -/
def FunctionBody.withoutDebugging (body : FunctionBody) : FunctionBody :=
  { body with linePositions := none, locals := none, upvalues := none }

/-- The debug information is read in either case, and erased after the last of it. -/
theorem FunctionBody.readBack_false (header : Header) (front : FunctionBody) :
    front.readBack header false = withoutDebugging <$> front.readBack header true := by
  simp only [readBack, map_bind, map_pure]
  rfl

namespace Prototype

mutual

/-- The tree without debug information at any level. -/
def withoutDebugging : Prototype → Prototype
  | ⟨body, functions⟩ => ⟨body.withoutDebugging, allWithoutDebugging functions⟩

def allWithoutDebugging : List Prototype → List Prototype
  | [] => []
  | first :: rest => first.withoutDebugging :: allWithoutDebugging rest

end

theorem allWithoutDebugging_eq_map (functions : List Prototype) :
    allWithoutDebugging functions = functions.map withoutDebugging := by
  induction functions with
  | nil => rfl
  | cons first rest ih => rw [allWithoutDebugging, ih, List.map_cons]

mutual

theorem length_walk_withoutDebugging : ∀ prototype : Prototype,
    prototype.withoutDebugging.walk.length = prototype.walk.length
  | ⟨body, functions⟩ => by
      simp only [withoutDebugging, walk, List.length_cons,
        length_walkAll_allWithoutDebugging functions]

theorem length_walkAll_allWithoutDebugging : ∀ functions : List Prototype,
    (walkAll (allWithoutDebugging functions)).length = (walkAll functions).length
  | [] => rfl
  | first :: rest => by
      simp only [allWithoutDebugging, walkAll, List.length_append,
        length_walk_withoutDebugging first, length_walkAll_allWithoutDebugging rest]

end

@[simp] theorem count_withoutDebugging (prototype : Prototype) :
    prototype.withoutDebugging.count = prototype.count :=
  prototype.length_walk_withoutDebugging

theorem readWithin_withoutDebugging (header : Header) (objects : Bool) (levels : Nat)
    (depth : Int) :
    readWithin header ⟨true, objects⟩ levels depth =
      withoutDebugging <$> readWithin header ⟨false, objects⟩ levels depth := by
  induction levels generalizing depth with
  | zero => simp only [readWithin, map_bind, Reader.map_fail]
  | succ levels ih =>
      -- The erasure of the nested functions is moved out of their list and past the fields after
      -- it, none of which depends on it: of the nested functions only the number is noted.
      simp only [readWithin, ih, Bool.not_true, Bool.not_false, FunctionBody.readBack_false,
        Header.counted_map, map_bind, bind_map_left, map_pure, List.length_map, withoutDebugging,
        allWithoutDebugging_eq_map]
      rfl

end Prototype

namespace DecodedFile

def withoutDebugging (file : DecodedFile) : DecodedFile :=
  { file with
    tree := file.tree.withoutDebugging
    options := { file.options with stripDebugging := true } }

theorem read_withoutDebugging (objects : Bool) :
    DecodedFile.read ⟨true, objects⟩ = withoutDebugging <$> DecodedFile.read ⟨false, objects⟩ := by
  simp only [DecodedFile.read, Prototype.read, Prototype.readWithin_withoutDebugging, map_bind,
    bind_map_left, map_pure, Prototype.count_withoutDebugging]
  rfl

end DecodedFile

theorem decode_withoutDebugging (data : Bytes) (objects : Bool) :
    decode data ⟨true, objects⟩ =
      ⟨(decode data ⟨false, objects⟩).result.map DecodedFile.withoutDebugging,
        (decode data ⟨false, objects⟩).offset, (decode data ⟨false, objects⟩).events⟩ := by
  rw [decode, DecodedFile.read_withoutDebugging, Reader.map_run]
  rfl

/-! ## JSON documents -/

namespace Json

def debugNames : List String := ["linePositions", "locals", "upvalues"]

mutual

/-- A function object without the members for debug information, in itself and in the objects of
the functions nested in it. -/
def withoutDebugging : Json → Json
  | .object members => .object (membersWithoutDebugging members)
  | other => other

def membersWithoutDebugging : List (String × Json) → List (String × Json)
  | [] => []
  | (name, value) :: rest =>
    if name ∈ debugNames then membersWithoutDebugging rest
    else if name = "functions" then
      (name, value.itemsWithoutDebugging) :: membersWithoutDebugging rest
    else (name, value) :: membersWithoutDebugging rest

def itemsWithoutDebugging : Json → Json
  | .array items => .array (allWithoutDebugging items)
  | other => other

def allWithoutDebugging : List Json → List Json
  | [] => []
  | first :: rest => first.withoutDebugging :: allWithoutDebugging rest

end

theorem membersWithoutDebugging_append (left right : List (String × Json)) :
    membersWithoutDebugging (left ++ right) =
      membersWithoutDebugging left ++ membersWithoutDebugging right := by
  induction left with
  | nil => rfl
  | cons member rest ih =>
      simp only [List.cons_append, membersWithoutDebugging, ih]
      split
      next => rfl
      next => split <;> rfl

theorem membersWithoutDebugging_optionalMember {α : Type} {name : String}
    (debugging : name ∈ debugNames) (item : α → Json) (items : Option (List α)) :
    membersWithoutDebugging (optionalMember name item items) = [] := by
  cases items with
  | none => rfl
  | some items => simp only [optionalMember, membersWithoutDebugging, if_pos debugging]

end Json

namespace FunctionBody

variable (objects : Bool) (body : FunctionBody)

theorem membersWithoutDebugging_leadingMembers :
    Json.membersWithoutDebugging (body.leadingMembers objects) = body.leadingMembers objects := by
  simp [leadingMembers, Json.membersWithoutDebugging, Json.debugNames]

theorem membersWithoutDebugging_debugMembers :
    Json.membersWithoutDebugging body.debugMembers = [] := by
  rw [debugMembers, Json.membersWithoutDebugging_append, Json.membersWithoutDebugging_append,
    Json.membersWithoutDebugging_optionalMember (by decide),
    Json.membersWithoutDebugging_optionalMember (by decide),
    Json.membersWithoutDebugging_optionalMember (by decide)]
  rfl

end FunctionBody

mutual

theorem Prototype.toJson_withoutDebugging (objects : Bool) : ∀ prototype : Prototype,
    prototype.withoutDebugging.toJson objects = (prototype.toJson objects).withoutDebugging
  | ⟨body, functions⟩ => by
      simp only [Prototype.withoutDebugging, Prototype.toJson, Json.withoutDebugging,
        Json.membersWithoutDebugging_append, Json.membersWithoutDebugging,
        Json.itemsWithoutDebugging, body.membersWithoutDebugging_leadingMembers,
        body.membersWithoutDebugging_debugMembers, Prototype.allToJson_withoutDebugging objects
          functions]
      rfl

theorem Prototype.allToJson_withoutDebugging (objects : Bool) : ∀ functions : List Prototype,
    Prototype.allToJson objects (Prototype.allWithoutDebugging functions) =
      Json.allWithoutDebugging (Prototype.allToJson objects functions)
  | [] => rfl
  | first :: rest => by
      simp only [Prototype.allWithoutDebugging, Prototype.allToJson, Json.allWithoutDebugging,
        Prototype.toJson_withoutDebugging objects first,
        Prototype.allToJson_withoutDebugging objects rest]

end

/-! ## The two runs -/

theorem debugging_present {data : Bytes} {objects : Bool} {file : DecodedFile}
    (succeeded : (decode data ⟨false, objects⟩).result = .ok file) :
    ∀ function ∈ file.tree.walk, function.body.linePositions.isSome ∧
      function.body.locals.isSome ∧ function.body.upvalues.isSome := by
  intro function member
  obtain ⟨root, -, -, -, -, -, -, meaning⟩ :=
    encodeFile_of_decode Vocabulary.raw_exhaustive succeeded
  rw [meaning] at member
  obtain ⟨body, stored⟩ := StoredFunction.mem_walk_meaning _ _ root function member
  rw [stored]
  exact ⟨rfl, rfl, rfl⟩

/-- With and without debug information, decoding fails in the same way or succeeds with the same
file, from which the debug information is erased or not. -/
theorem decode_stripped (data : Bytes) (objects : Bool) :
    let fullRun := decode data { stripDebugging := false, instructionObjects := objects }
    let strippedRun := decode data { stripDebugging := true, instructionObjects := objects }
    strippedRun.events = fullRun.events ∧
      ((∃ fault, fullRun.result = .error fault ∧ strippedRun.result = .error fault) ∨
      ∃ full stripped, fullRun.result = .ok full ∧ strippedRun.result = .ok stripped ∧
        stripped.header = full.header ∧ stripped.consumed = full.consumed ∧
        stripped.trailing = full.trailing ∧ stripped.tree.count = full.tree.count ∧
        stripped.tree = full.tree.withoutDebugging ∧
        (∀ function ∈ full.tree.walk, function.body.linePositions.isSome ∧
          function.body.locals.isSome ∧ function.body.upvalues.isSome) ∧
        stripped.toJson = full.toJson.withoutDebugging) := by
  intro fullRun strippedRun
  have erased : strippedRun = ⟨fullRun.result.map DecodedFile.withoutDebugging, fullRun.offset,
      fullRun.events⟩ := decode_withoutDebugging data objects
  rw [erased]
  refine ⟨rfl, ?_⟩
  cases outcome : fullRun.result with
  | error fault => exact .inl ⟨fault, rfl, rfl⟩
  | ok full =>
      refine .inr ⟨full, full.withoutDebugging, rfl, rfl, rfl, rfl, rfl, ?_, rfl, ?_, ?_⟩
      · exact full.tree.count_withoutDebugging
      · exact debugging_present outcome
      · exact full.tree.toJson_withoutDebugging _

end LuaBytecode
