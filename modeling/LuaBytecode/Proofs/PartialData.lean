import LuaBytecode.Proofs.ReaderSteps

/-!
# Reading a part of the data

Where a run ends, and whether it fails, can be told from the data before its final cursor. So a run
on data that were cut off is the same run, or it fails for want of data, however many steps it
takes.
-/

set_option autoImplicit false

namespace LuaBytecode

/-- How many bytes were asked for by a read that failed for want of data. -/
def Fault.wanted? : Fault → Option Nat
  | .endOfData _ => some 1
  | .shortData wanted _ _ => some wanted
  | _ => none

def Buffer.IsPartOf (part whole : Buffer) : Prop :=
  part.toList <+: whole.toList

namespace Buffer.IsPartOf

variable {part whole : Buffer}

theorem size_le (isPart : part.IsPartOf whole) : part.size ≤ whole.size :=
  List.IsPrefix.length_le isPart

theorem getElem?_eq_some (isPart : part.IsPartOf whole) {index : Nat} {byte : UInt8}
    (found : part[index]? = some byte) : whole[index]? = some byte := by
  obtain ⟨rest, joined⟩ := isPart
  obtain ⟨below, -⟩ := Array.getElem?_eq_some_iff.mp found
  rw [← Array.getElem?_toList] at found ⊢
  rw [← joined, List.getElem?_append_left below]
  exact found

theorem extract_eq (isPart : part.IsPartOf whole) {start count : Nat}
    (enough : start + count ≤ part.size) :
    (part.extract start (start + count)).toList = (whole.extract start (start + count)).toList := by
  obtain ⟨rest, joined⟩ := isPart
  have after : start ≤ part.toList.length := by
    rw [Array.length_toList]
    omega
  have within : count ≤ (part.toList.drop start).length := by
    rw [List.length_drop, Array.length_toList]
    omega
  rw [Reader.toList_extract, Reader.toList_extract, ← joined,
    List.drop_append_of_le_length after, List.take_append_of_le_length within]

end Buffer.IsPartOf

namespace Reader

variable {α : Type} {given : Circumstances} {least start : Nat} {here there : Reader α}

/-- A run on the first part of the data is the run on all of them, and stays within that part; or it
fails for want of data. -/
theorem Steps.cut {part : Buffer} (isPart : part.IsPartOf given.buffer) (narrow : given.narrow)
    (steps : Steps given least here there start) (inside : start ≤ part.size) :
    (here part start = here given.buffer start ∧ (here part start).offset ≤ part.size) ∨
      ∃ fault wanted, (here part start).result = .error fault ∧
        fault.wanted? = some wanted ∧ fault.offset? = some (here part start).offset ∧
        (here part start).offset ≤ part.size ∧
        part.size < (here part start).offset + wanted := by
  induction steps with
  | pure value start => exact .inl ⟨rfl, inside⟩
  | note permitted start => exact .inl ⟨rfl, inside⟩
  | fail fault found => exact .inl ⟨rfl, inside⟩
  | weaken _ _ ih => exact ih inside
  | offset_bind _ ih => exact ih inside
  | byte start =>
      simp only [Reader.byte]
      cases found : part[start]? with
      | none =>
          have atEnd := Array.getElem?_eq_none_iff.mp found
          exact .inr ⟨_, _, rfl, rfl, rfl, inside, Nat.lt_succ_of_le atEnd⟩
      | some value =>
          obtain ⟨below, -⟩ := Array.getElem?_eq_some_iff.mp found
          exact .inl ⟨by rw [isPart.getElem?_eq_some found], below⟩
  | @bytes count writable start =>
      simp only [Reader.bytes]
      split
      next enough =>
        rw [if_pos (Nat.le_trans enough isPart.size_le), isPart.extract_eq enough]
        exact .inl ⟨rfl, enough⟩
      next short =>
        rw [shortage, if_pos (writable narrow)]
        exact .inr ⟨_, _, rfl, rfl, rfl, inside, Nat.lt_of_not_le short⟩
  | @bind _ _ first _ next _ _ _ start _ _ firstIH nextIH =>
      rcases firstIH inside with ⟨same, bounded⟩ | ⟨fault, wanted, failed, short⟩
      · cases outcome : (first part start).result with
        | error fault =>
            rw [bind_of_error outcome, bind_of_error (same ▸ outcome), same]
            exact .inl ⟨rfl, same ▸ bounded⟩
        | ok value =>
            -- The first read stayed within the part, so the next starts from the same cursor.
            have sameOutcome := same ▸ outcome
            rw [bind_of_ok outcome, bind_of_ok sameOutcome, same]
            rcases nextIH value _ ⟨sameOutcome, rfl⟩ (same ▸ bounded) with
              ⟨sameRest, boundedRest⟩ | short
            · exact .inl ⟨by simp only [sameRest], boundedRest⟩
            · exact .inr short
      · rw [bind_of_error failed]
        exact .inr ⟨fault, wanted, rfl, short⟩

end Reader

end LuaBytecode
