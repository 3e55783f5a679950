import LuaBytecode.Proofs.ReaderSteps

/-!
# Reading elsewhere

Bytes in front of the data move everything that is read, and change nothing else: on displaced data
a reader gives the same value or a fault of the same wording, with every offset displaced. This
holds for each step, and so for every run.
-/

set_option autoImplicit false

namespace LuaBytecode

theorem Fault.report_displaced (distance : Nat) (fault : Fault) :
    (fault.displaced distance).report =
      { fault.report with offset := fault.report.offset.map (· + (distance : Int)) } := by
  cases fault <;> rfl

def Run.displaced {α : Type} (distance : Nat) (run : Run α) : Run α where
  result := run.result.mapError (Fault.displaced distance)
  offset := run.offset + distance
  events := run.events.map (Log.Event.displaced distance)

namespace Reader

variable {α β : Type} (leading data : Buffer) (start : Nat)

theorem byte_displaced :
    byte (leading ++ data) (start + leading.size) = (byte data start).displaced leading.size := by
  have same : (leading ++ data)[start + leading.size]? = data[start]? := by
    rw [Array.getElem?_append_right (Nat.le_add_left _ _), Nat.add_sub_cancel]
  simp only [byte, same]
  cases data[start]? with
  | none => rfl
  | some value =>
      show Run.mk _ _ _ = Run.mk _ _ _
      rw [Nat.add_right_comm]
      rfl

theorem shortage_displaced (count : Nat) :
    shortage count (leading ++ data) (start + leading.size) =
      (shortage count data start).displaced leading.size := by
  have available : (((leading ++ data).size : Nat) : Int) - ((start + leading.size : Nat) : Int) =
      (data.size : Int) - start := by
    rw [Array.size_append]
    omega
  by_cases writable : Text.isWritable count = true
  · rw [shortage, shortage, if_pos writable, if_pos writable, available, Fault.displaced]
  · rw [shortage, shortage, if_neg writable, if_neg writable, Fault.displaced]

theorem bytes_displaced (count : Nat) :
    bytes count (leading ++ data) (start + leading.size) =
      (bytes count data start).displaced leading.size := by
  have sameBound : start + leading.size + count ≤ (leading ++ data).size ↔
      start + count ≤ data.size := by
    rw [Array.size_append]
    omega
  by_cases enough : start + count ≤ data.size
  · have sameBytes : ((leading ++ data).extract (start + leading.size)
          (start + leading.size + count)).toList =
        (data.extract start (start + count)).toList := by
      rw [toList_extract, toList_extract, Array.toList_append, Nat.add_comm start,
        ← Array.length_toList, List.drop_length_add_append]
    rw [bytes, bytes, if_pos enough, if_pos (sameBound.mpr enough), sameBytes,
      Nat.add_right_comm]
    rfl
  · rw [bytes, bytes, if_neg enough, if_neg (mt sameBound.mp enough), shortage_displaced]
    rfl

variable {leading data start}

theorem bind_displaced {first first' : Reader α} {next next' : α → Reader β}
    (before : first' (leading ++ data) (start + leading.size) =
      (first data start).displaced leading.size)
    (after : ∀ value stop, first.Takes data start value stop →
      next' value (leading ++ data) (stop + leading.size) =
        (next value data stop).displaced leading.size) :
    (first' >>= next') (leading ++ data) (start + leading.size) =
      ((first >>= next) data start).displaced leading.size := by
  cases outcome : (first data start).result with
  | error fault =>
      have failed : (first' (leading ++ data) (start + leading.size)).result =
          .error (fault.displaced leading.size) := by
        rw [before, Run.displaced, outcome]
        rfl
      rw [bind_of_error outcome, bind_of_error failed, before]
      rfl
  | ok value =>
      have succeeded : (first' (leading ++ data) (start + leading.size)).result = .ok value := by
        rw [before, Run.displaced, outcome]
        rfl
      have rest := after value _ ⟨outcome, rfl⟩
      rw [bind_of_ok outcome, bind_of_ok succeeded, before]
      simp only [Run.displaced] at rest ⊢
      simp only [rest, List.map_append]

theorem Steps.displaced {given : Circumstances} {least : Nat} {here there : Reader α}
    (size : given.distance = leading.size) (steps : Steps given least here there start) :
    there (leading ++ given.buffer) (start + leading.size) =
      (here given.buffer start).displaced leading.size := by
  induction steps with
  | pure value start => rfl
  | note permitted start => rw [size]; rfl
  | byte start => exact byte_displaced leading _ start
  | bytes writable start => exact bytes_displaced leading _ start _
  | fail fault found => rw [size]; rfl
  | offset_bind _ ih => rw [size] at ih; exact ih
  | bind _ _ firstIH nextIH => exact bind_displaced firstIH nextIH
  | weaken _ _ ih => exact ih

end Reader

theorem Call.displaced (leading data : Buffer) (start : Nat) (call : Call) :
    call.reader (leading ++ data) (start + leading.size) =
      (call.reader data start).displaced leading.size :=
  (call.steps data start leading.size).displaced rfl

/-- Behind other bytes a call gives the same value, or a fault that is reported in the same category
with the same text and tag, and its offset, the cursor and the places noted are displaced by the
number of these bytes. -/
theorem call_displaced (leading data : Buffer) (start : Nat) (call : Call) :
    let here := call.reader data start
    let there := call.reader (leading ++ data) (leading.size + start)
    there.result = here.result.mapError (Fault.displaced leading.size) ∧
      there.offset = leading.size + here.offset ∧
      there.events = here.events.map (Log.Event.displaced leading.size) ∧
      ∀ fault : Fault, (fault.displaced leading.size).report =
        { fault.report with offset := fault.report.offset.map (· + (leading.size : Int)) } := by
  intro here there
  have displaced : there = here.displaced leading.size := by
    have moved := call.displaced leading data start
    rwa [Nat.add_comm start] at moved
  refine ⟨congrArg Run.result displaced, ?_, congrArg Run.events displaced,
    Fault.report_displaced leading.size⟩
  rw [displaced, Nat.add_comm]
  rfl

end LuaBytecode
