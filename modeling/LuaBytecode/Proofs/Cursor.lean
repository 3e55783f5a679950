import LuaBytecode.Proofs.ReaderSteps

/-!
# Where reading leaves the cursor

A run is orderly if it moves the cursor neither back nor past the end of the data, takes at least a
stated number of bytes when it succeeds, and leaves the cursor where its fault was found when it
fails. Runs are orderly because their steps are, and so all of this holds for every call of a
reader, under any header, and for sessions of calls of any length.
-/

set_option autoImplicit false

namespace LuaBytecode

/-- Where a fault leaves the cursor, in a call that started at `entry`. The faults that lie in what
the caller asked for are not bound to a place. -/
def Fault.StopsAt (entry cursor : Nat) : Fault → Prop
  | .endOfData offset => cursor = offset
  | .shortData _ _ offset => cursor = offset
  | .tooDeep offset => cursor = offset
  | .unknownConstant _ offset => cursor = offset + 1
  | .badSignature _ offset => offset = entry ∧ cursor = entry + 4
  | .badEndianness _ offset => offset = entry + 6 ∧ cursor = offset + 1
  | .zeroWidth _ offset => offset = entry ∧ cursor = entry + 11
  | .unwritableLength | .negativeLength | .unknownByteOrder => True

theorem Fault.FoundAt.stopsAt {given : Circumstances} {fault : Fault} {cursor : Nat}
    (found : fault.FoundAt given cursor) : fault.StopsAt given.entry cursor := by
  cases fault with
  | endOfData | shortData => exact found.1.symm
  | tooDeep => exact Eq.symm found
  | unknownConstant => exact found.1
  | badSignature | badEndianness | zeroWidth => exact found
  | unwritableLength | negativeLength | unknownByteOrder => exact trivial

namespace Reader

variable {α : Type}

/-- What is known of a run that started at `start`. -/
structure Orderly (given : Circumstances) (least : Nat) (reader : Reader α) (start : Nat) :
    Prop where
  forth : start ≤ (reader given.buffer start).offset
  inside : start ≤ given.buffer.size → (reader given.buffer start).offset ≤ given.buffer.size
  progress : ∀ value, (reader given.buffer start).result = .ok value →
    start + least ≤ (reader given.buffer start).offset
  located : ∀ fault, (reader given.buffer start).result = .error fault →
    fault.FoundAt given (reader given.buffer start).offset
  noted : ∀ event ∈ (reader given.buffer start).events, given.allowed event

variable {given : Circumstances} {least start : Nat} {reader : Reader α}

theorem Orderly.le_of_takes {value : α} {stop : Nat} (orderly : Orderly given least reader start)
    (taken : reader.Takes given.buffer start value stop) : start + least ≤ stop :=
  taken.2 ▸ orderly.progress value taken.1

theorem orderly_byte (start : Nat) : Orderly given 1 byte start := by
  cases found : given.buffer[start]? with
  | none =>
      have atEnd := Array.getElem?_eq_none_iff.mp found
      constructor <;> simp only [byte, found]
      · exact Nat.le_refl _
      · exact id
      · rintro _ ⟨⟩
      · rintro _ ⟨⟩
        exact ⟨rfl, Nat.lt_succ_of_le atEnd⟩
      · rintro _ ⟨⟩
  | some value =>
      obtain ⟨below, -⟩ := Array.getElem?_eq_some_iff.mp found
      constructor <;> simp only [byte, found]
      · exact Nat.le_succ _
      · exact fun _ => below
      · exact fun _ _ => Nat.le_refl _
      · rintro _ ⟨⟩
      · rintro _ ⟨⟩

theorem shortage_eq (count : Nat) (buffer : Buffer) (start : Nat) :
    shortage count buffer start = .shortData count ((buffer.size : Int) - start) start ∨
      shortage count buffer start = .unwritableLength ∧ Text.isWritable count = false := by
  cases writable : Text.isWritable count with
  | true => exact .inl (if_pos writable)
  | false =>
      right
      rw [shortage, writable]
      exact ⟨rfl, rfl⟩

theorem foundAt_of_shortage {count : Nat} {fault : Fault}
    (writable : given.narrow → Text.isWritable count = true)
    (short : given.buffer.size < start + count)
    (same : shortage count given.buffer start = fault) : fault.FoundAt given start := by
  rcases shortage_eq count given.buffer start with found | ⟨found, unwritable⟩
  · obtain rfl := found.symm.trans same
    exact ⟨rfl, short, rfl⟩
  · obtain rfl := found.symm.trans same
    intro narrow
    exact Bool.noConfusion ((writable narrow).symm.trans unwritable)

theorem orderly_bytes {count : Nat} (writable : given.narrow → Text.isWritable count = true)
    (start : Nat) : Orderly given count (bytes count) start := by
  by_cases enough : start + count ≤ given.buffer.size
  · constructor <;> simp only [bytes, if_pos enough]
    · exact Nat.le_add_right _ _
    · exact fun _ => enough
    · exact fun _ _ => Nat.le_refl _
    · rintro _ ⟨⟩
    · rintro _ ⟨⟩
  · constructor <;> simp only [bytes, if_neg enough]
    · exact Nat.le_refl _
    · exact id
    · rintro _ ⟨⟩
    · intro fault failed
      exact foundAt_of_shortage writable (Nat.lt_of_not_le enough) (Except.error.inj failed)
    · rintro _ ⟨⟩

theorem Orderly.bind {β : Type} {first : Reader α} {next : α → Reader β} {more : Nat}
    (orderly : Orderly given least first start)
    (rest : ∀ value stop, first.Takes given.buffer start value stop →
      Orderly given more (next value) stop) :
    Orderly given (least + more) (first >>= next) start := by
  cases outcome : (first given.buffer start).result with
  | error fault =>
      constructor <;> simp only [bind_of_error outcome]
      · exact orderly.forth
      · exact orderly.inside
      · rintro _ ⟨⟩
      · rintro _ ⟨⟩
        exact orderly.located fault outcome
      · exact orderly.noted
  | ok value =>
      have after := rest value _ ⟨outcome, rfl⟩
      constructor <;> simp only [bind_of_ok outcome]
      · exact Nat.le_trans orderly.forth after.forth
      · exact fun inside => after.inside (orderly.inside inside)
      · intro result succeeded
        have progress := orderly.progress value outcome
        have afterProgress := after.progress result succeeded
        omega
      · exact after.located
      · exact List.forall_mem_append.mpr ⟨orderly.noted, after.noted⟩

/-- Every step is orderly, and so is a run of steps. -/
theorem Steps.orderly {here there : Reader α} (steps : Steps given least here there start) :
    Orderly given least here start := by
  induction steps with
  | pure value start =>
      exact ⟨Nat.le_refl _, id, fun _ _ => Nat.le_refl _, by rintro _ ⟨⟩, by rintro _ ⟨⟩⟩
  | note permitted start =>
      exact ⟨Nat.le_refl _, id, fun _ _ => Nat.le_refl _, by rintro _ ⟨⟩,
        List.forall_mem_singleton.mpr permitted⟩
  | byte start => exact orderly_byte start
  | bytes writable start => exact orderly_bytes writable start
  | fail fault found =>
      exact ⟨Nat.le_refl _, id, by rintro _ ⟨⟩, by rintro _ ⟨⟩; exact found, by rintro _ ⟨⟩⟩
  | @offset_bind _ next _ _ start _ ih =>
      have whole : (offset >>= next) given.buffer start = next start given.buffer start :=
        bind_of_ok rfl next
      exact ⟨whole ▸ ih.forth, whole ▸ ih.inside, whole ▸ ih.progress, whole ▸ ih.located,
        whole ▸ ih.noted⟩
  | bind _ _ firstIH nextIH => exact firstIH.bind nextIH
  | weaken fewer _ ih =>
      refine { ih with progress := fun value succeeded => ?_ }
      have progress := ih.progress value succeeded
      omega

end Reader

/-! ## Sessions -/

theorem Call.orderly (call : Call) (buffer : Buffer) (start : Nat) :
    Reader.Orderly (.ofCall buffer start 0) 0 call.reader start :=
  (call.steps buffer start 0).orderly

namespace Session

variable {session : Session}

@[simp] theorem afterAll_buffer (calls : List Call) :
    (session.afterAll calls).buffer = session.buffer := by
  induction calls generalizing session with
  | nil => rfl
  | cons call calls ih => rw [afterAll_cons, ih, after_buffer]

theorem cursor_le_after (call : Call) : session.cursor ≤ (session.after call).cursor :=
  (call.orderly session.buffer session.cursor).forth

theorem after_cursor_le_size (inside : session.cursor ≤ session.buffer.size) (call : Call) :
    (session.after call).cursor ≤ session.buffer.size :=
  (call.orderly session.buffer session.cursor).inside inside

theorem cursor_le_afterAll (calls : List Call) :
    session.cursor ≤ (session.afterAll calls).cursor := by
  induction calls generalizing session with
  | nil => exact Nat.le_refl _
  | cons call calls ih => exact Nat.le_trans (cursor_le_after call) ih

theorem afterAll_cursor_le_size (inside : session.cursor ≤ session.buffer.size)
    (calls : List Call) : (session.afterAll calls).cursor ≤ session.buffer.size := by
  induction calls generalizing session with
  | nil => exact inside
  | cons call calls ih => exact ih (after_cursor_le_size inside call)

end Session

/-- However many calls went before it, failed ones among them, a call leaves the buffer alone, moves
the cursor neither back nor past the end, and if it fails leaves it where its fault says. -/
theorem session_cursor (session : Session) (inside : session.cursor ≤ session.buffer.size)
    (earlier : List Call) (call : Call) :
    let before := session.afterAll earlier
    let after := session.afterAll (earlier ++ [call])
    after.buffer = session.buffer ∧ session.cursor ≤ before.cursor ∧
      before.cursor ≤ after.cursor ∧ after.cursor ≤ session.buffer.size ∧
      ∀ fault, (call.reader before.buffer before.cursor).result = .error fault →
        fault.StopsAt before.cursor after.cursor := by
  intro before after
  have last : after = before.after call := List.foldl_append
  refine ⟨Session.afterAll_buffer _, Session.cursor_le_afterAll earlier, ?_,
    Session.afterAll_cursor_le_size inside _, ?_⟩
  · rw [last]
    exact Session.cursor_le_after call
  · rw [last]
    intro fault failed
    exact ((call.orderly before.buffer before.cursor).located fault failed).stopsAt

/-- A stray tag, and after it a header with the byte order seven. -/
def faultySession : Session :=
  ⟨#[9, 0x1b, 0x4c, 0x75, 0x61, 0x51, 0, 7], 0⟩

theorem session_cursor_faultySession :
    let constantCall := Call.item ⟨0x51, 0, 1, ⟨0, 0, 0, 0⟩, 0⟩ .constant
    let before := faultySession.afterAll [constantCall]
    (constantCall.reader faultySession.buffer 0).result = .error (.unknownConstant 9 0) ∧
      (Header.read before.buffer before.cursor).result = .error (.badEndianness 7 7) ∧
      (faultySession.afterAll [constantCall, .fileHeader]).cursor = 8 := by
  intro constantCall before
  obtain ⟨-, -, -, -, located⟩ :=
    session_cursor faultySession (by decide) [constantCall] .fileHeader
  have failed : (Header.read before.buffer before.cursor).result =
      .error (.badEndianness 7 7) := by
    cbv
  exact ⟨rfl, failed, (located _ failed).2⟩

end LuaBytecode
