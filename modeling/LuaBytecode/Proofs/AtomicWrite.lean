import LuaBytecode.Proofs.WriteEffect

/-!
# Writes are atomic

Whatever a write does, it shows at any moment the files as they were, apart from one temporary file,
or the files as they are when it has succeeded. What a file holds after any number of writes is what
it held at first, or all the bytes that one of them had to write. These can be fewer than the text
has: nothing is written of a domain name after its last dot.
-/

set_option autoImplicit false

namespace LuaBytecode

namespace Store

/-! ## Calls -/

/-- A call to write a text. -/
structure Writing where
  target : String
  text : String
  encodingName : String

namespace Writing

def run (call : Writing) (store : Store) : StoreRun WriteFailure Unit :=
  write call.target call.text call.encodingName store

/-- The target leads to a file with the encoded text, and no other file has changed. -/
def Replaces (call : Writing) (before after : Store) : Prop :=
  ∃ location bytes, Text.encodeAs call.encodingName call.text = .ok bytes ∧
    after.locate call.target = .ok (location, .file bytes) ∧
    ∀ other, other ≠ location → after.file? other = before.file? other

/-- What a call does and shows to others. -/
structure Atomic (call : Writing) (before : Store) (run : StoreRun WriteFailure Unit) : Prop where
  -- There is one temporary file at most, in a free place. At any moment all other files are as they
  -- were before, or the call has come to its end and succeeded.
  passing : ∃ temporary : Option Location,
    (∀ location ∈ temporary, before.find? location = none ∧
      ∃ directory mark, location = directory ++ [temporaryName mark]) ∧
    ∀ now ∈ run.passed,
      (∀ location, location ∉ temporary → now.file? location = before.file? location) ∨
        run.result = .ok () ∧ now = run.store
  succeeded : run.result = .ok () → call.Replaces before run.store
  failed : ∀ failure, run.result = .error failure →
    ∀ location, run.store.file? location = before.file? location
  -- A file that was not there before the call is the target.
  clean : ∀ location content, run.store.file? location = some content →
    before.file? location ≠ none ∨ run.store.locate call.target = .ok (location, .file content)

end Writing

theorem exists_mark_of_freshName (store : Store) (directory : Location) :
    ∃ mark, store.freshName directory = temporaryName mark := by
  rw [freshName]
  cases chosen : List.find? _ _ with
  | none => exact ⟨"", rfl⟩
  | some name =>
      obtain ⟨length, -, rfl⟩ := List.mem_map.mp (List.mem_of_find?_eq_some chosen)
      exact ⟨_, rfl⟩

theorem exists_mark_of_temporaryVacancy {store : Store} {directory : String} {location : Location}
    (found : store.temporaryVacancy directory = .ok location) :
    ∃ reached mark, location = reached ++ [temporaryName mark] := by
  rw [temporaryVacancy] at found
  split at found
  next => cases found
  next =>
    obtain ⟨reached, -, found⟩ := bind_eq_ok.mp found
    cases found
    obtain ⟨mark, same⟩ := exists_mark_of_freshName store reached
    exact ⟨reached, mark, by rw [same]⟩

/-- While a temporary file is filled and moved, or given up, all other files are as they were until
the work has succeeded. -/
theorem passed_fillAndMove {made : Store} {temporary : Location} {label target : String}
    {content : Except WriteFailure Bytes} (vacant : made.find? temporary = none)
    {run : StoreRun WriteFailure Unit}
    (isRun : StoreWork.orUndo (fillAndMove temporary label target content)
      (fun store => store.erase temporary) (made.insert temporary (.file [])) = run)
    {now : Store} (member : now ∈ run.passed) :
    (∀ location, location ≠ temporary → now.file? location = made.file? location) ∨
      run.result = .ok () ∧ now = run.store := by
  have filled (bytes : Bytes) (location : Location) (other : location ≠ temporary) :
      (made.insert temporary (.file bytes)).file? location = made.file? location :=
    file?_of_find? (find?_insert_of_ne made _ other)
  have undone (bytes : Bytes) (location : Location) :
      ((made.insert temporary (.file bytes)).erase temporary).file? location =
        made.file? location :=
    file?_of_find? (find?_erase_temporary _ vacant location)
  subst isRun
  simp only [StoreWork.orUndo, fillAndMove, bind, StoreWork.bind, StoreWork.ask, StoreWork.change,
    insert_insert, List.nil_append] at member ⊢
  cases content with
  | error failure =>
      obtain rfl := List.mem_singleton.mp member
      exact .inl fun location _ => undone [] location
  | ok bytes =>
      simp only at member ⊢
      cases handed : handingOver target (fun cause => ⟨cause, label, some target⟩)
          ((made.insert temporary (.file bytes)).destination target) with
      | error failure =>
          simp only [handed, Except.mapError, List.append_nil, List.singleton_append,
            List.mem_cons, List.not_mem_nil, or_false] at member
          rcases member with rfl | rfl
          · exact .inl (filled bytes)
          · exact .inl fun location _ => undone bytes location
      | ok destination =>
          simp only [handed, Except.mapError, List.singleton_append, List.mem_cons,
            List.not_mem_nil, or_false] at member ⊢
          rcases member with rfl | rfl
          · exact .inl (filled bytes)
          · exact .inr ⟨trivial, rfl⟩

namespace Writing

theorem passing (call : Writing) (before : Store) :
    ∃ temporary : Option Location,
      (∀ location ∈ temporary, before.find? location = none ∧
        ∃ directory mark, location = directory ++ [temporaryName mark]) ∧
      ∀ now ∈ (call.run before).passed,
        (∀ location, location ∉ temporary → now.file? location = before.file? location) ∨
          (call.run before).result = .ok () ∧ now = (call.run before).store := by
  obtain ⟨adds, passes⟩ := addsThroughout_ensureDirectories (parentOf call.target).length
    (parentOf call.target).toList
  have extend := adds before
  have throughout := passes before
  simp only [run, write, bind, StoreWork.bind, StoreWork.mapFailure, StoreWork.ask,
    StoreWork.change]
  generalize ensureDirectories (parentOf call.target).length (parentOf call.target).toList before =
    ensured at extend throughout
  obtain ⟨result, made, passed⟩ := ensured
  have making (now : Store) (member : now ∈ passed) (location : Location) :
      now.file? location = before.file? location := (throughout now member).file? location
  cases result with
  | error failure =>
      refine ⟨none, by simp, ?_⟩
      intro now member
      exact .inl fun location _ => making now member location
  | ok _ =>
      simp only [Except.mapError]
      cases found : made.temporaryVacancy (parentOf call.target) with
      | error cause =>
          refine ⟨none, by simp, ?_⟩
          intro now member
          simp only [List.append_nil] at member
          exact .inl fun location _ => making now member location
      | ok temporary =>
          have vacant := temporaryVacancy_eq_ok found
          refine ⟨some temporary, ?_, ?_⟩
          · intro location isTemporary
            cases isTemporary
            refine ⟨?_, exists_mark_of_temporaryVacancy found⟩
            rcases extend temporary with same | ⟨vacantBefore, -⟩
            · rw [← same, vacant]
            · exact vacantBefore
          · intro now member
            have others (location : Location) (other : location ∉ some temporary) :
                location ≠ temporary := by
              intro same
              exact other (congrArg some same.symm)
            simp only [List.nil_append, List.mem_append, List.mem_singleton] at member
            rcases member with early | rfl | late
            · exact .inl fun location _ => making now early location
            · refine .inl fun location other => ?_
              rw [← extend.file? location]
              exact file?_of_find? (find?_insert_of_ne made _ (others location other))
            · rcases passed_fillAndMove vacant rfl late with same | ended
              · refine .inl fun location other => ?_
                rw [same location (others location other), extend.file?]
              · exact .inr ended

/-- One call leaves a file as it was, or replaces it with its encoded text. -/
theorem file?_run (call : Writing) (before : Store) (location : Location) :
    (call.run before).store.file? location = before.file? location ∨
      ∃ bytes, Text.encodeAs call.encodingName call.text = .ok bytes ∧
        (call.run before).store.locate call.target = .ok (location, .file bytes) ∧
        (call.run before).store.file? location = some bytes := by
  have written : Written call.target call.text call.encodingName before (call.run before).result
      (call.run before).store := write_written _ _ _ before
  cases result : (call.run before).result with
  | error failure =>
      rw [result] at written
      exact .inl (written.file?_of_error location)
  | ok _ =>
      rw [result] at written
      obtain ⟨target, bytes, encoded, located, others⟩ := written.locate_of_ok
      by_cases same : location = target
      · subst same
        obtain ⟨-, -, -, -, -, stored⟩ := locate_eq_file located
        exact .inr ⟨bytes, encoded, located, by rw [file?, stored]⟩
      · exact .inl (others location same)

/-- Every call is atomic, in whatever state it finds the files. -/
theorem run_atomic (call : Writing) (before : Store) : call.Atomic before (call.run before) := by
  have written : Written call.target call.text call.encodingName before (call.run before).result
      (call.run before).store := write_written _ _ _ before
  refine ⟨call.passing before, ?_, ?_, ?_⟩
  · intro succeeded
    rw [succeeded] at written
    exact written.locate_of_ok
  · intro failure failed
    rw [failed] at written
    exact written.file?_of_error
  · intro location content there
    rcases call.file?_run before location with same | ⟨bytes, -, located, stored⟩
    · left
      rw [← same, there]
      simp
    · rw [there] at stored
      cases stored
      exact .inr located

end Writing

/-! ## Sequences of calls -/

/-- The store after several calls, each in the store that the one before it has left. -/
def afterCalls (store : Store) (calls : List Writing) : Store :=
  calls.foldl (fun reached call => (call.run reached).store) store

theorem afterCalls_nil (store : Store) : store.afterCalls [] = store :=
  List.foldl_nil

theorem afterCalls_cons (store : Store) (call : Writing) (later : List Writing) :
    store.afterCalls (call :: later) = (call.run store).store.afterCalls later :=
  List.foldl_cons ..

/-- One of the calls has put its encoded text, which are the given bytes, at the location. -/
def Wrote (store : Store) (calls : List Writing) (location : Location) (bytes : Bytes) : Prop :=
  ∃ earlier call later, calls = earlier ++ call :: later ∧
    Text.encodeAs call.encodingName call.text = .ok bytes ∧
    (store.afterCalls (earlier ++ [call])).locate call.target = .ok (location, .file bytes)

theorem file?_afterCalls (store : Store) (calls : List Writing) (location : Location) :
    (store.afterCalls calls).file? location = store.file? location ∨
      ∃ bytes, store.Wrote calls location bytes ∧
        (store.afterCalls calls).file? location = some bytes := by
  induction calls generalizing store with
  | nil => exact .inl rfl
  | cons first rest ih =>
      rw [afterCalls_cons]
      rcases ih (first.run store).store with kept | ⟨bytes, ⟨earlier, call, later, rfl, encoded,
        located⟩, stored⟩
      · rcases first.file?_run store location with same | ⟨bytes, encoded, located, stored⟩
        · exact .inl (kept.trans same)
        · refine .inr ⟨bytes, ⟨[], first, rest, rfl, encoded, ?_⟩, kept.trans stored⟩
          rw [List.nil_append, afterCalls_cons, afterCalls_nil]
          exact located
      · refine .inr ⟨bytes, ⟨first :: earlier, call, later, rfl, encoded, ?_⟩, stored⟩
        rw [List.cons_append, afterCalls_cons]
        exact located

/-- Over any sequence of calls every call is atomic, and between the calls every file is as it was
at first or holds the encoded text of one of them. -/
theorem writes_atomic (store : Store) (earlier : List Writing) (call : Writing) :
    call.Atomic (store.afterCalls earlier) (call.run (store.afterCalls earlier)) ∧
      ∀ location, (store.afterCalls earlier).file? location = store.file? location ∨
        ∃ bytes, store.Wrote earlier location bytes ∧
          (store.afterCalls earlier).file? location = some bytes :=
  ⟨call.run_atomic _, store.file?_afterCalls earlier⟩

/-! ## Domain names -/

/-- A domain name is written part by part as its dots are met, so that nothing is ever written of a
text without a dot. -/
theorem encodeAs_of_noDot {text : String}
    (noDot : ∀ char ∈ text.toList, Text.DomainName.isDot char = false) :
    Text.encodeAs "idna" text = .ok [] := by
  have none (started chars : List Char)
      (noDot : ∀ char ∈ chars, Text.DomainName.isDot char = false) :
      Text.DomainName.endedParts started chars = [] := by
    induction chars generalizing started with
    | nil => rfl
    | cons char rest ih =>
        obtain ⟨here, later⟩ := List.forall_mem_cons.mp noDot
        rw [Text.DomainName.endedParts, here]
        exact ih _ later
  have name : Text.Encoding.ofName "idna" = .ok .domainName := rfl
  rw [Text.encodeAs, name]
  show (Text.DomainName.encode text).mapError Text.EncodingFailure.label = .ok []
  rw [Text.DomainName.encode, none [] _ noDot]
  rfl

theorem emptied_of_noDot {target text : String} {before : Store}
    (noDot : ∀ char ∈ text.toList, Text.DomainName.isDot char = false)
    (succeeded : ((Writing.mk target text "idna").run before).result = .ok ()) :
    ∃ location, ((Writing.mk target text "idna").run before).store.locate target =
      .ok (location, .file []) := by
  obtain ⟨location, bytes, encoded, located, -⟩ :=
    ((Writing.mk target text "idna").run_atomic before).succeeded succeeded
  rw [encodeAs_of_noDot noDot] at encoded
  cases encoded
  exact ⟨location, located⟩

/-- The name is its own written form, but the call that is to write it leaves an empty file. -/
theorem run_domainName :
    Text.DomainName.written "example".toList = .ok "example".toList ∧
      ((Writing.mk "h" "example" "idna").run ⟨[]⟩).result = .ok () ∧
      ((Writing.mk "h" "example" "idna").run ⟨[]⟩).store.locate "h" = .ok (["h"], .file []) ∧
      Bytes.ofText "example" ≠ [] := by
  have succeeded : ((Writing.mk "h" "example" "idna").run ⟨[]⟩).result = .ok () := by
    decide +kernel
  exact ⟨by decide, succeeded, by decide +kernel, by decide⟩

end Store

end LuaBytecode
