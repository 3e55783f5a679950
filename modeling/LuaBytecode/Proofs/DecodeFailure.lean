import LuaBytecode.Proofs.Cursor
import LuaBytecode.Proofs.DoubleExact
import LuaBytecode.Proofs.ParseTree
import LuaBytecode.Proofs.PartialData

/-!
# How decoding fails

Decoding fails only for reasons that lie in the data, each at a place in the data, and cutting off a
file inside its root function makes decoding fail for want of data and for nothing else. Both follow
from the steps of the readers, under the widths that a header can have.
-/

set_option autoImplicit false

namespace LuaBytecode

open Reader (Steps takes_bind takes_pure)

/-! ## Files -/

/-- Nothing is asked for but what a file can say. -/
def Circumstances.ofData (buffer : Buffer) : Circumstances where
  buffer := buffer
  entry := 0
  distance := 0
  narrow := True
  allowed := fun _ => True

/-- The header and the root function, without the summary after them. -/
def readFunctions (options : Options) : Reader (Header × Prototype) := do
  let header ← Header.read
  let tree ← Prototype.read header options 0
  return (header, tree)

theorem steps_readFunctions (buffer : Buffer) (options : Options) :
    Steps (.ofData buffer) 0 (readFunctions options) (readFunctions options) 0 := by
  have header : Steps (.ofData buffer) Header.size Header.read Header.read 0 :=
    Header.steps_read (fun _ => trivial) fun _ => trivial
  refine header.passed fun header middle taken => ?_
  obtain ⟨_, valid, -, -, rfl⟩ := Header.read_acceptsOnly taken
  have tree : Reader.Walks (.ofData buffer) _ (Prototype.read _ options 0) :=
    Prototype.walks_readWithin (fun _ => valid.narrow) (fun _ => trivial) (fun _ => trivial) options
      _ 0
  exact (tree middle).passed fun tree stop _ => .pure (_, tree) stop

theorem offset_readFunctions_le (buffer : Buffer) (options : Options) :
    (readFunctions options buffer 0).offset ≤ buffer.size :=
  (steps_readFunctions buffer options).orderly.inside (Nat.zero_le _)

theorem readFunctions_cut {part whole : Buffer} (isPart : part.IsPartOf whole)
    (options : Options) :
    let run := readFunctions options part 0
    (run = readFunctions options whole 0 ∧ run.offset ≤ part.size) ∨
      ∃ fault wanted, run.result = .error fault ∧ fault.wanted? = some wanted ∧
        fault.offset? = some run.offset ∧ run.offset ≤ part.size ∧
        part.size < run.offset + wanted :=
  (steps_readFunctions whole options).cut isPart trivial (Nat.zero_le _)

theorem takes_readFunctions {data : Bytes} {options : Options} {file : DecodedFile}
    (succeeded : (decode data options).result = .ok file) :
    (readFunctions options).Takes data.toArray 0 (file.header, file.tree) file.consumed := by
  obtain ⟨middle, headerTaken, treeTaken, -⟩ := decode_eq_ok.mp succeeded
  exact takes_bind.mpr ⟨_, _, headerTaken,
    takes_bind.mpr ⟨_, _, treeTaken, takes_pure.mpr ⟨rfl, rfl⟩⟩⟩

theorem decode_of_takes_readFunctions {data : Bytes} {options : Options} {header : Header}
    {tree : Prototype} {stop : Nat}
    (taken : (readFunctions options).Takes data.toArray 0 (header, tree) stop) :
    (decode data options).result =
      .ok ⟨header, tree, options, stop, ((data.length : Int) - stop).toNat⟩ := by
  obtain ⟨_, middle, headerTaken, taken⟩ := takes_bind.mp taken
  obtain ⟨_, _, treeTaken, taken⟩ := takes_bind.mp taken
  obtain ⟨same, rfl⟩ := takes_pure.mp taken
  obtain ⟨rfl, rfl⟩ := Prod.mk.inj same
  exact decode_eq_ok.mpr ⟨middle, headerTaken, treeTaken, rfl, rfl⟩

theorem decode_run_of_readFunctions_error {data : Bytes} {options : Options} {fault : Fault}
    (failed : (readFunctions options data.toArray 0).result = .error fault) :
    decode data options = ⟨.error fault, (readFunctions options data.toArray 0).offset,
      (readFunctions options data.toArray 0).events⟩ := by
  have parts : DecodedFile.read options = readFunctions options >>= fun (header, tree) => do
      let trailing ← Reader.remaining
      let consumed ← Reader.offset
      Reader.noteIf (trailing != 0) (.trailingBytes trailing.toNat consumed)
      Reader.note (.decoded tree.count consumed)
      return ⟨header, tree, options, consumed, trailing.toNat⟩ := by
    simp only [DecodedFile.read, readFunctions, bind_assoc, pure_bind]
  rw [decode, parts, Reader.bind_of_error failed]

theorem decode_of_readFunctions_error {data : Bytes} {options : Options} {fault : Fault}
    (failed : (readFunctions options data.toArray 0).result = .error fault) :
    (decode data options).result = .error fault := by
  rw [decode_run_of_readFunctions_error failed]

theorem readFunctions_error_of_decode {data : Bytes} {options : Options} {fault : Fault}
    (failed : (decode data options).result = .error fault) :
    (readFunctions options data.toArray 0).result = .error fault := by
  cases outcome : (readFunctions options data.toArray 0).result with
  | error found =>
      rw [decode_of_readFunctions_error outcome] at failed
      exact congrArg _ (Except.error.inj failed)
  | ok functions =>
      -- Nothing after the root function can fail, so the file would have been decoded.
      rw [decode_of_takes_readFunctions ⟨outcome, rfl⟩] at failed
      cases failed

/-! ## Reports -/

namespace Fault

@[simp] theorem report_category (fault : Fault) : fault.report.category = fault.category := by
  cases fault <;> rfl

@[simp] theorem report_offset (fault : Fault) :
    fault.report.offset = fault.offset?.map Int.ofNat := by
  cases fault <;> rfl

variable {buffer : Buffer} {cursor : Nat} {fault : Fault}

theorem FoundAt.category (found : fault.FoundAt (.ofData buffer) cursor) :
    fault.category ∈ [.header, .truncated, .unknownConstant, .nesting] := by
  cases fault with
  | unwritableLength | negativeLength | unknownByteOrder => exact absurd trivial found
  | _ => simp [Fault.category]

theorem FoundAt.offset (found : fault.FoundAt (.ofData buffer) cursor) :
    ∃ offset, fault.offset? = some offset ∧ offset ≤ cursor := by
  cases fault with
  | unwritableLength | negativeLength | unknownByteOrder => exact absurd trivial found
  | _ => exact ⟨_, rfl, by simp only [FoundAt] at found; omega⟩

theorem FoundAt.tag (found : fault.FoundAt (.ofData buffer) cursor)
    (unknown : fault.category = .unknownConstant) :
    ∃ (offset : Nat) (tag : UInt8), fault.offset? = some offset ∧ buffer[offset]? = some tag ∧
      fault.report.tag = some (tag.toNat : Int) ∧ tag ∉ [0, 1, 3, 4] := by
  cases fault with
  | unknownConstant tag offset =>
      obtain ⟨-, byte, held, rfl, notKnown⟩ := found
      exact ⟨offset, byte, rfl, held, rfl, notKnown⟩
  | _ => cases unknown

theorem category_of_wanted {wanted : Nat} (asked : fault.wanted? = some wanted) :
    fault.category = .truncated := by
  cases fault with
  | endOfData | shortData => rfl
  | _ => cases asked

end Fault

/-- Decoding succeeds, or it fails for a reason in the data that is reported with its place; an
unknown constant is reported with the byte at that place. What is done with the bytes of a field
cannot fail either: they are as many as its width says, and the steps in which the value of a
double is computed stay within the range of the doubles. -/
theorem decode_fails_as_announced (data : Bytes) (options : Options) :
    (∀ fault, (decode data options).result = .error fault →
      fault.report.category ∈ [.header, .truncated, .unknownConstant, .nesting] ∧
      ∃ offset : Nat, fault.report.offset = some (offset : Int) ∧ offset ≤ data.length ∧
        (fault.report.category = .unknownConstant →
          ∃ tag : UInt8, data[offset]? = some tag ∧ fault.report.tag = some (tag.toNat : Int) ∧
            tag ∉ [0, 1, 3, 4])) ∧
      (∀ (width : Int) (start stop : Nat) (stored : Bytes),
        (Reader.field width).Takes data.toArray start stored stop → (stored.length : Int) = width) ∧
      ∀ pattern : Nat, Double.ofWord? pattern = some (Double.ofWord pattern) := by
  refine ⟨?_, fun _ _ _ _ taken => Reader.length_of_takes_field taken, ?_⟩
  · intro fault failed
    have inside := offset_readFunctions_le data.toArray options
    have found := (steps_readFunctions data.toArray options).orderly.located fault
      (readFunctions_error_of_decode failed)
    obtain ⟨offset, place, bounded⟩ := found.offset
    rw [Fault.report_category, Fault.report_offset, place]
    refine ⟨found.category, offset, rfl, Nat.le_trans bounded inside, ?_⟩
    intro unknown
    obtain ⟨_, tag, samePlace, held, reported, notKnown⟩ := found.tag unknown
    obtain rfl := Option.some.inj (place.symm.trans samePlace)
    exact ⟨tag, by simpa using held, reported, notKnown⟩
  · intro pattern
    rw [Double.ofWord_natCast]
    exact Double.ofWord?_natCast pattern

/-- A file with a constant of the tag two. -/
def strayTagFile : Bytes :=
  [0x1b, 0x4c, 0x75, 0x61, 0x51, 0, 1, 1, 1, 1, 1, 0, 0, 0, 0, 0, 0, 2, 2, 0, 1, 2]

theorem decode_fails_as_announced_strayTagFile :
    (decode strayTagFile {}).result = .error (.unknownConstant 2 21) ∧
      ∃ offset : Nat, offset ≤ 22 ∧ ∃ tag : UInt8, strayTagFile[offset]? = some tag ∧
        (tag.toNat : Int) = 2 ∧ tag ∉ [0, 1, 3, 4] := by
  have fault : (match (decode strayTagFile {}).result with
      | .ok _ => none
      | .error fault => some fault) = some (.unknownConstant 2 21) := by
    decide +kernel
  cases outcome : (decode strayTagFile {}).result with
  | ok file => simp [outcome] at fault
  | error found =>
      simp only [outcome, Option.some.injEq] at fault
      subst fault
      obtain ⟨-, offset, -, bounded, located⟩ :=
        (decode_fails_as_announced strayTagFile {}).1 _ outcome
      obtain ⟨tag, held, reported, notKnown⟩ := located rfl
      exact ⟨rfl, offset, bounded, tag, held, (Option.some.inj reported).symm, notKnown⟩

/-- A file that is cut off before the end of its root function is found to be cut off. -/
theorem decode_cut {data : Bytes} {options : Options} {file : DecodedFile}
    (succeeded : (decode data options).result = .ok file) {cut : Nat}
    (short : cut < file.consumed) :
    ∃ fault, (decode (data.take cut) options).result = .error fault ∧
      fault.report.category = .truncated ∧
      ∃ offset wanted : Nat, fault.report.offset = some (offset : Int) ∧
        fault.wanted? = some wanted ∧ offset ≤ cut ∧ cut < offset + wanted := by
  have taken := takes_readFunctions succeeded
  have isPart : Buffer.IsPartOf (data.take cut).toArray data.toArray := List.take_prefix cut data
  have size : (data.take cut).toArray.size = cut := by
    have bounded := offset_readFunctions_le data.toArray options
    rw [taken.2] at bounded
    simp only [List.size_toArray, List.length_take] at bounded ⊢
    omega
  rcases readFunctions_cut isPart options with
    ⟨same, bounded⟩ | ⟨fault, wanted, failed, asked, place, bounded, beyond⟩
  · rw [same, taken.2, size] at bounded
    omega
  · rw [size] at bounded beyond
    refine ⟨fault, decode_of_readFunctions_error failed, ?_, _, wanted, ?_, asked, bounded, beyond⟩
    · rw [Fault.report_category, Fault.category_of_wanted asked]
    · rw [Fault.report_offset, place]
      rfl

theorem decode_cut_unusualFile :
    ∃ fault, (decode (unusualFile.take 40) {}).result = .error fault ∧
      fault.report.category = .truncated ∧
      ∃ offset wanted : Nat, fault.report.offset = some (offset : Int) ∧
        fault.wanted? = some wanted ∧ offset ≤ 40 ∧ 40 < offset + wanted := by
  obtain ⟨file, succeeded, consumed⟩ := decode_unusualFile
  exact decode_cut succeeded (by omega)

end LuaBytecode
