import LuaBytecode.Proofs.Blueprint
import LuaBytecode.Proofs.DecodeFailure
import LuaBytecode.Proofs.StoredFunction.Failure

/-!
# The places of faults

Where reading stops in a file that was written after a blueprint and is at fault in one point: a
tree with too many levels is refused at its first function that lies too deep, and a constant with a
tag that stands for nothing is reported at that tag, wherever in the tree it is and whatever stands
after it.
-/

set_option autoImplicit false

namespace LuaBytecode

/-- A tree of any height is read from any depth, if that many levels are left; otherwise the cursor
stays at the first function, in the order of the file, for which no level is left. -/
theorem read_nesting_limit {header : Header} (valid : header.Valid) {blueprint : Blueprint}
    (fits : blueprint.Fits header (.written header)) (leading suffix : Bytes) (options : Options)
    (depth : Int) :
    let buffer : Buffer := (leading ++ blueprint.encode header (.written header) ++ suffix).toArray
    let run := Prototype.read header options depth buffer leading.length
    let places := blueprint.places header (.written header) depth leading.length
    ((∃ tree, run.result = .ok tree) ↔ depth + blueprint.height ≤ nestingLimit) ∧
      (depth + blueprint.height ≤ nestingLimit →
        run.result = .ok (blueprint.meaning (.written header) options) ∧
        run.offset = leading.length + (blueprint.encode header (.written header)).length) ∧
      (nestingLimit < depth + blueprint.height →
        ∃ place, places.find? (·.isTooDeep) = some place ∧
          buffer.Holds place.start (place.function.encode header (.written header)) ∧
          run.result = .error (.tooDeep place.start) ∧ run.offset = place.start) ∧
      places.map (fun place => place.function.meaning (.written header) options) =
        (blueprint.meaning (.written header) options).walk := by
  intro buffer run places
  have decoded := Vocabulary.written_decoded valid
  have held : buffer.Holds leading.length (blueprint.encode header (.written header)) := by
    refine ⟨suffix, ?_⟩
    show _ = (leading ++ blueprint.encode header (.written header) ++ suffix).drop leading.length
    rw [List.append_assoc, List.drop_left]
  have within : depth + blueprint.height ≤ nestingLimit →
      (Prototype.read header options depth).Takes buffer leading.length
        (blueprint.meaning (.written header) options)
        (leading.length + (blueprint.encode header (.written header)).length) :=
    fun low => Prototype.takes_read valid decoded options fits low held
  have beyond : nestingLimit < depth + blueprint.height →
      ∃ place, places.find? (·.isTooDeep) = some place ∧
        (Prototype.read header options depth).Fails buffer leading.length (.tooDeep place.start)
          place.start :=
    fun deep => Prototype.fails_tooDeep valid decoded options fits deep held
  refine ⟨⟨?_, fun low => ⟨_, (within low).1⟩⟩, within, ?_, ?_⟩
  · rintro ⟨tree, succeeded⟩
    refine Int.not_lt.mp fun deep => ?_
    obtain ⟨place, -, failed, -⟩ := beyond deep
    rw [failed] at succeeded
    cases succeeded
  · intro deep
    obtain ⟨place, first, failed⟩ := beyond deep
    have member : place ∈ places := List.mem_of_find?_eq_some first
    exact ⟨place, first, StoredFunction.holds_of_mem_places held member, failed⟩
  · exact StoredFunction.map_meaning_places options depth leading.length blueprint

theorem sampleHeader_valid : sampleHeader.Valid := by
  constructor <;> decide

theorem read_nesting_limit_sampleBlueprint :
    let written := sampleBlueprint.encode sampleHeader (.written sampleHeader)
    (Prototype.read sampleHeader {} 199 (written ++ [7]).toArray 0).result =
        .ok (sampleBlueprint.meaning (.written sampleHeader) {}) ∧
      (Prototype.read sampleHeader {} 200 (written ++ [7]).toArray 0).result =
        .error (.tooDeep 44) ∧
      (Prototype.read sampleHeader {} 200 (written ++ [7]).toArray 0).offset = 44 := by
  intro written
  have limit := read_nesting_limit sampleHeader_valid sampleBlueprint_fits [] [7] {}
  obtain ⟨place, first, -, failed, stopped⟩ := (limit 200).2.2.1 (by decide)
  have start : place.start = 44 := by
    have starts := congrArg (Option.map StoredFunction.Place.start) first
    exact Option.some.inj (starts.symm.trans (by decide +kernel))
  rw [start] at failed stopped
  exact ⟨((limit 199).2.1 (by decide)).1, failed, stopped⟩

/-! ## Stray tags -/

theorem decode_of_fails {header : Header} {data : Bytes} {options : Options} {fault : Fault}
    {stop : Nat} (valid : header.Valid) (held : Buffer.Holds data.toArray 0 header.encode)
    (failed : (Prototype.read header options 0).Fails data.toArray Header.size fault stop) :
    (decode data options).result = .error fault := by
  have headerTaken : Header.read.Takes data.toArray 0 header Header.size := by
    have taken := Header.read_decodes valid held
    rwa [Nat.zero_add] at taken
  have stopped : (readFunctions options).Fails data.toArray 0 fault stop :=
    headerTaken.thenFails (failed.followed _)
  exact decode_of_readFunctions_error stopped.1

theorem Literal.length_encode_pos (header : Header) (literal : Literal) :
    0 < (literal.encode header).length := by
  cases literal <;> simp [encode]

/-- A tag that stands for nothing is found at its place, in whatever function of the tree it is. -/
theorem decode_stray_tag {header : Header} (valid : header.Valid) {blueprint : Blueprint}
    (fits : blueprint.Fits header (.written header)) (low : blueprint.height ≤ nestingLimit)
    {place : StoredFunction.Place (Option Bytes) Literal}
    (member : place ∈ blueprint.places header (.written header) 0 Header.size) {index : Nat}
    {constant : Literal} (found : place.function.body.constants[index]? = some constant)
    {tag : UInt8} (unknown : tag ∉ [0, 1, 3, 4]) (rest : Bytes) (options : Options) :
    let file := blueprint.encodeFile header (.written header)
    let position := place.constantStart header (.written header) index
    Buffer.Holds file.toArray position (constant.encode header) ∧
      (decode (file.take position ++ tag :: rest) options).result =
        .error (.unknownConstant tag.toNat position) := by
  intro file position
  obtain ⟨headerHeld, rootHeld⟩ : Buffer.Holds file.toArray 0 header.encode ∧
      Buffer.Holds file.toArray Header.size (blueprint.encode header (.written header)) :=
    Buffer.holds_append.mp ⟨[], List.append_nil _⟩
  have constantHeld := (StoredFunction.holds_constant rootHeld member found).2
  refine ⟨constantHeld, ?_⟩
  have cutLength : (file.take position).length = position := by
    have inside : position + (constant.encode header).length ≤ file.length :=
      constantHeld.end_le (constant.length_encode_pos header)
    rw [List.length_take]
    omega
  have agree : Buffer.AgreesBefore (file.take position ++ tag :: rest).toArray file.toArray
      position := List.take_left' cutLength
  have tagHeld : (file.take position ++ tag :: rest).toArray[position]? = some tag := by
    simp [cutLength]
  have treeFailed : (Prototype.read header options 0).Fails
      (file.take position ++ tag :: rest).toArray Header.size
      (.unknownConstant tag.toNat position) (position + 1) :=
    Prototype.fails_at_constant valid (Vocabulary.written_decoded valid) options fits (by omega)
      rootHeld member found agree (Constant.read_of_unknown tagHeld unknown)
  have pastHeader : 0 + header.encode.length ≤ position := by
    rw [Nat.zero_add, header.length_encode]
    exact Nat.le_trans (StoredFunction.start_le_of_mem_places member) (Nat.le_add_right _ _)
  exact decode_of_fails valid (agree.holds headerHeld pastHeader) treeFailed

/-- A function with two copies of another in it. -/
def twinBlueprint : Blueprint :=
  ⟨sampleBlueprint.body, [sampleBlueprint, sampleBlueprint]⟩

theorem decode_stray_tag_twinBlueprint :
    (twinBlueprint.encodeFile sampleHeader (.written sampleHeader))[166]? = some 3 ∧
      (decode ((twinBlueprint.encodeFile sampleHeader (.written sampleHeader)).take 166 ++ [9, 4])
        {}).result = .error (.unknownConstant 9 166) := by
  have fits : twinBlueprint.Fits sampleHeader (.written sampleHeader) := by
    refine .intro sampleBlueprint_fits.body (by show 2 < 65536; decide) ?_
    intro function member
    simp only [List.mem_cons, List.not_mem_nil, or_false, or_self] at member
    rw [member]
    exact sampleBlueprint_fits
  have second : (twinBlueprint.places sampleHeader (.written sampleHeader) 0 Header.size)[3]? =
      some ⟨sampleBlueprint, 1, 141⟩ := rfl
  have third : sampleBlueprint.body.constants[2]? = some (.number (.double sampleNumber)) := rfl
  exact ⟨by decide +kernel, (decode_stray_tag sampleHeader_valid fits (by decide)
    (List.mem_of_getElem? second) third (by decide : (9 : UInt8) ∉ [0, 1, 3, 4]) [4] {}).2⟩

end LuaBytecode
