import LuaBytecode.Proofs.DecodeFailure

/-!
# Supplying more data

What decoding has found in the data stays found when more data follow. A file that is decoded is
decoded in the same way, and only the count of the bytes after it grows; a failure is the same
failure, unless it was a want of data.
-/

set_option autoImplicit false

namespace LuaBytecode

variable {data : Bytes} {options : Options}

/-- Reading goes the same way on longer data, unless it was for want of them that it stopped. -/
theorem readFunctions_append (data suffix : Bytes) (options : Options) :
    readFunctions options (data ++ suffix).toArray 0 = readFunctions options data.toArray 0 ∨
      ∃ fault, (readFunctions options data.toArray 0).result = .error fault ∧
        fault.category = .truncated := by
  have isPart : Buffer.IsPartOf data.toArray (data ++ suffix).toArray :=
    List.prefix_append data suffix
  rcases readFunctions_cut isPart options with ⟨same, -⟩ | ⟨fault, wanted, failed, asked, -⟩
  · exact .inl same.symm
  · exact .inr ⟨fault, failed, Fault.category_of_wanted asked⟩

theorem consumed_le_length {file : DecodedFile}
    (succeeded : (decode data options).result = .ok file) : file.consumed ≤ data.length := by
  have bounded := offset_readFunctions_le data.toArray options
  rwa [(takes_readFunctions succeeded).2] at bounded

theorem decode_append_of_ok {file : DecodedFile}
    (succeeded : (decode data options).result = .ok file) (suffix : Bytes) :
    (decode (data ++ suffix) options).result =
      .ok { file with trailing := file.trailing + suffix.length } := by
  have taken := takes_readFunctions succeeded
  rcases readFunctions_append data suffix options with same | ⟨fault, failed, -⟩
  · have takenAgain : (readFunctions options).Takes (data ++ suffix).toArray 0
        (file.header, file.tree) file.consumed := by
      rw [Reader.Takes, same]
      exact taken
    obtain ⟨_, _, _, sameOptions, trailing⟩ := decode_eq_ok.mp succeeded
    have grown : (((data ++ suffix).length : Int) - file.consumed).toNat =
        file.trailing + suffix.length := by
      have inside := consumed_le_length succeeded
      rw [trailing, List.length_append]
      omega
    rw [decode_of_takes_readFunctions takenAgain, grown, ← sameOptions]
  · rw [taken.1] at failed
    cases failed

theorem decode_append_of_error {fault : Fault}
    (failed : (decode data options).result = .error fault) (suffix : Bytes) :
    decode (data ++ suffix) options = decode data options ∨ fault.category = .truncated := by
  have stopped := readFunctions_error_of_decode failed
  rcases readFunctions_append data suffix options with same | ⟨found, foundThere, short⟩
  · left
    have stoppedAgain := same ▸ stopped
    rw [decode_run_of_readFunctions_error stopped,
      decode_run_of_readFunctions_error stoppedAgain, same]
  · right
    rw [stopped] at foundThere
    rw [Except.error.inj foundThere]
    exact short

/-- Bytes after the data change nothing in a decoded file but the count of what is left, and nothing
in a failure, its events and its place included, other than a want of data. -/
theorem decode_append (data suffix : Bytes) (options : Options) :
    (∀ file, (decode data options).result = .ok file →
      (decode (data ++ suffix) options).result =
        .ok { file with trailing := file.trailing + suffix.length }) ∧
    (∀ fault, (decode data options).result = .error fault →
      fault.report.category ∈ [.header, .unknownConstant, .nesting] →
      decode (data ++ suffix) options = decode data options) ∧
    ∀ fault, (decode data options).result = .error fault →
      (decode (data ++ suffix) options).result ≠ .error fault →
      fault.report.category = .truncated := by
  refine ⟨fun file succeeded => decode_append_of_ok succeeded suffix, ?_, ?_⟩
  · intro fault failed announced
    rw [Fault.report_category] at announced
    rcases decode_append_of_error failed suffix with same | short
    · exact same
    · rw [short] at announced
      simp at announced
  · intro fault failed changed
    rw [Fault.report_category]
    rcases decode_append_of_error failed suffix with same | short
    · exact absurd (same ▸ failed) changed
    · exact short

/-- A file in which a constant of a nested function has the tag nine. -/
def nestedStrayTagFile : Bytes :=
  [0x1b, 0x4c, 0x75, 0x61, 0x51, 0, 1, 1, 1, 1, 1, 0,
    0, 0, 0, 0, 0, 2, 2, 0, 0, 1,
    0, 0, 0, 0, 0, 0, 2, 0, 1, 9]

theorem decode_nestedStrayTagFile :
    (decode nestedStrayTagFile {}).result = .error (.unknownConstant 9 31) := by
  have fault : (match (decode nestedStrayTagFile {}).result with
      | .ok _ => none
      | .error fault => some fault) = some (.unknownConstant 9 31) := by
    decide +kernel
  cases outcome : (decode nestedStrayTagFile {}).result with
  | ok file => simp [outcome] at fault
  | error found =>
      simp only [outcome, Option.some.injEq] at fault
      rw [fault]

theorem decode_append_nestedStrayTagFile :
    (∃ file, (decode (unusualFile ++ [1, 2]) {}).result = .ok file ∧ file.consumed = 57) ∧
      (decode (nestedStrayTagFile ++ [0, 0]) {}).result = .error (.unknownConstant 9 31) ∧
      ∃ fault, (decode (unusualFile.take 40) {}).result = .error fault ∧
        fault.report.category = .truncated := by
  obtain ⟨file, succeeded, consumed⟩ := decode_unusualFile
  refine ⟨⟨_, (decode_append unusualFile [1, 2] {}).1 file succeeded, consumed⟩, ?_, ?_⟩
  · rw [(decode_append nestedStrayTagFile [0, 0] {}).2.1 _ decode_nestedStrayTagFile (by decide)]
    exact decode_nestedStrayTagFile
  · have failed : (decode (unusualFile.take 40) {}).result.toOption.isNone = true := by
      decide +kernel
    cases outcome : (decode (unusualFile.take 40) {}).result with
    | ok file => simp [outcome, Except.toOption] at failed
    | error fault =>
        refine ⟨fault, rfl, ?_⟩
        refine (decode_append (unusualFile.take 40) (unusualFile.drop 40) {}).2.2 fault outcome ?_
        rw [List.take_append_drop, succeeded]
        simp

end LuaBytecode
