import LuaBytecode.Proofs.StoreFrame

/-!
# What writing a text does to a store

Writing a text either leaves every file as it was or changes the file at one location, to which the
target path leads afterwards.
-/

set_option autoImplicit false

namespace LuaBytecode

namespace Store

/-! ## Writing -/

theorem destination_eq_ok {store : Store} {path : String} {location : Location}
    (found : store.destination path = .ok location) :
    ∃ directory name, store.walk path = .ok ⟨directory, .name name, false⟩ ∧
      ¬maxName < name.utf8ByteSize ∧ location = directory ++ [name] ∧
      store.find? location ≠ some .directory := by
  obtain ⟨⟨directory, last, slashed⟩, walked, found⟩ := bind_eq_ok.mp found
  cases last with
  | here => cases found
  | above => cases found
  | name name =>
      simp only at found
      split_ifs at found with long isSlashed
      split at found
      next => cases found
      next other =>
        cases found
        have plain : slashed = false := by simpa using isSlashed
        subst plain
        exact ⟨directory, name, walked, long, rfl, fun isDirectory => other isDirectory⟩

theorem insert_insert (store : Store) (location : Location) (first second : Entry) :
    (store.insert location first).insert location second = store.insert location second := by
  simp [insert, erase, List.filter_filter]

theorem handingOver_eq_error {α : Type} {path : String} {failure : SystemCause → SystemFailure}
    {answer : Except SystemCause α} {cause : StoreFailure}
    (refused : handingOver path failure answer = .error cause) :
    cause = .zeroInPath → '\x00' ∈ path.toList := by
  rintro rfl
  rw [handingOver] at refused
  split at refused
  next zero => simpa using zero
  next =>
    cases answer with
    | error _ => cases refused
    | ok _ => cases refused

theorem splitLast_fst_subset (path : List Char) : (splitLast path).1 ⊆ path := by
  intro char member
  simp only [splitLast] at member
  split at member
  next => exact List.mem_of_mem_take member
  next =>
    have inHead := (List.dropWhile_sublist _).subset (List.mem_reverse.mp member)
    exact List.mem_of_mem_take (List.mem_reverse.mp inHead)

theorem mem_of_mem_parentOf {char : Char} {target : String}
    (member : char ∈ (parentOf target).toList) (notDot : char ≠ '.') : char ∈ target.toList := by
  rw [parentOf] at member
  split at member
  next => exact absurd (by simpa using member) notDot
  next =>
    rw [String.toList_ofList] at member
    exact splitLast_fst_subset _ member

theorem ensureDirectory_zeroInPath {path : List Char} {store : Store}
    (failed : (ensureDirectory (String.ofList path) store).result = .error .zeroInPath) :
    '\x00' ∈ path := by
  have failed := StoreWork.excusing_eq_error failed
  rcases StoreWork.bind_eq_error failed with refused | ⟨location, -, changed⟩
  · simpa using handingOver_eq_error refused rfl
  · cases changed

theorem ensureDirectories_zeroInPath (bound : Nat) (path : List Char) (store : Store)
    (failed : (ensureDirectories bound path store).result = .error .zeroInPath) :
    '\x00' ∈ path := by
  induction bound generalizing path store with
  | zero => exact ensureDirectory_zeroInPath failed
  | succ bound ih =>
      have below {above : List Char} (within : above ⊆ path) {last : List Char}
          (failed : (((ensureDirectories bound above).excusing
              (fun failure _ => failure.isAlreadyExists) >>= fun _ =>
            if last = ['.'] then pure () else ensureDirectory (String.ofList path)) store).result =
              .error .zeroInPath) : '\x00' ∈ path := by
        rcases StoreWork.bind_eq_error failed with first | ⟨-, -, second⟩
        · exact within (ih above store (StoreWork.excusing_eq_error first))
        · split at second
          · cases second
          · exact ensureDirectory_zeroInPath second
      simp only [ensureDirectories] at failed
      split at failed
      next head cut =>
        have inHead : head ⊆ path := by simpa [cut] using splitLast_fst_subset path
        split at failed
        · exact ensureDirectory_zeroInPath failed
        · exact below (fun _ member => inHead (splitLast_fst_subset head member)) failed
      next =>
        split at failed
        · exact ensureDirectory_zeroInPath failed
        · exact below (splitLast_fst_subset path) failed

/-- What a write can do: it fails and leaves at most new directories, or moves one new file onto the
target. -/
inductive Written (target text encodingName : String) (store : Store) :
    Except WriteFailure Unit → Store → Prop where
  | refused {made after : Store} {failure : StoreFailure} (extend : made.Extends store)
      (same : ∀ location, after.find? location = made.find? location)
      (zero : failure = .zeroInPath → '\x00' ∈ target.toList) :
      Written target text encodingName store (.error (.store failure)) after
  | unencodable {made after : Store} {failure : Text.EncodingFailure} (extend : made.Extends store)
      (same : ∀ location, after.find? location = made.find? location)
      (failed : Text.encodeAs encodingName text = .error failure) :
      Written target text encodingName store (.error (.encoding failure)) after
  | moved {made : Store} {bytes : Bytes} {temporary destination : Location}
      (extend : made.Extends store) (encoded : Text.encodeAs encodingName text = .ok bytes)
      (vacant : made.find? temporary = none)
      (found : (made.insert temporary (.file bytes)).destination target = .ok destination) :
      Written target text encodingName store (.ok ())
        (((made.insert temporary (.file bytes)).erase temporary).insert destination (.file bytes))

theorem write_written (target text encodingName : String) (store : Store) :
    Written target text encodingName store (write target text encodingName store).result
      (write target text encodingName store).store := by
  have extend := (addsThroughout_ensureDirectories (parentOf target).length
    (parentOf target).toList).adds store
  have zero := ensureDirectories_zeroInPath (parentOf target).length (parentOf target).toList store
  simp only [write, bind, StoreWork.bind, StoreWork.mapFailure, StoreWork.ask, StoreWork.change,
    StoreWork.orUndo, fillAndMove]
  generalize ensureDirectories (parentOf target).length (parentOf target).toList store = ensured
    at extend zero
  obtain ⟨result, made, passed⟩ := ensured
  cases result with
  | error failure =>
      refine .refused extend (fun _ => rfl) ?_
      rintro rfl
      exact mem_of_mem_parentOf (zero rfl) (by decide)
  | ok _ =>
      simp only [Except.mapError]
      cases found : made.temporaryVacancy (parentOf target) with
      | error cause =>
          refine .refused extend (fun _ => rfl) ?_
          intro absurd
          cases absurd
      | ok temporary =>
          have vacant := temporaryVacancy_eq_ok found
          cases encoded : Text.encodeAs encodingName text with
          | error failure => exact .unencodable extend (find?_erase_temporary _ vacant) encoded
          | ok bytes =>
              simp only [insert_insert]
              cases handed : handingOver target
                  (fun cause => ⟨cause, temporaryLabel (parentOf target), some target⟩)
                  ((made.insert temporary (.file bytes)).destination target) with
              | error failure =>
                  exact .refused extend (find?_erase_temporary _ vacant)
                    (handingOver_eq_error handed)
              | ok destination =>
                  exact .moved extend encoded vacant (handingOver_eq_ok handed).2

/-! ## Files after a write -/

section Moved

variable {made : Store} {target : String} {bytes : Bytes} {temporary destination : Location}
  (vacant : made.find? temporary = none)
  (found : (made.insert temporary (.file bytes)).destination target = .ok destination)

include vacant in
theorem find?_moved_of_ne {other : Location} (different : other ≠ destination) :
    (((made.insert temporary (.file bytes)).erase temporary).insert destination
      (.file bytes)).find? other = made.find? other := by
  rw [find?_insert_of_ne _ _ different, find?_erase_temporary _ vacant]

include vacant found in
theorem find?_moved_directory {other : Location} (there : made.find? other = some .directory) :
    (((made.insert temporary (.file bytes)).erase temporary).insert destination
      (.file bytes)).find? other = some .directory := by
  obtain ⟨-, -, -, -, -, notDirectory⟩ := destination_eq_ok found
  have notTemporary : other ≠ temporary := by
    rintro rfl
    rw [vacant] at there
    cases there
  have notDestination : other ≠ destination := by
    rintro rfl
    rw [find?_insert_of_ne _ _ notTemporary] at notDirectory
    exact notDirectory there
  rw [find?_moved_of_ne vacant notDestination, there]

include vacant found in
theorem locate_moved :
    (((made.insert temporary (.file bytes)).erase temporary).insert destination
      (.file bytes)).locate target = .ok (destination, .file bytes) := by
  obtain ⟨directory, name, walked, short, place, notDirectory⟩ := destination_eq_ok found
  have kept (other : Location)
      (there : (made.insert temporary (.file bytes)).find? other = some .directory) :
      (((made.insert temporary (.file bytes)).erase temporary).insert destination
        (.file bytes)).find? other = some .directory := by
    refine find?_moved_directory vacant found ?_
    rw [← there, find?_insert_of_ne]
    rintro rfl
    rw [find?_insert_self _ _ (isStanding_of_find? made (by simp [vacant]))] at there
    cases there
  rw [locate, walk_kept kept walked]
  show (if maxName < name.utf8ByteSize then _ else _) = _
  rw [if_neg short, ← place, find?_insert_self _ _ (isStanding_of_find? _ notDirectory)]
  rfl

end Moved

namespace Written

variable {target text encodingName : String} {store after : Store}

/-- A failed write leaves every file as it was. -/
theorem file?_of_error {failure : WriteFailure}
    (written : Written target text encodingName store (.error failure) after)
    (location : Location) : after.file? location = store.file? location := by
  cases written with
  | refused extend same _ => rw [file?_of_find? (same location), extend.file?]
  | unencodable extend same _ => rw [file?_of_find? (same location), extend.file?]

/-- After a write that succeeded the target leads to a file with the text, and no other file has
changed. -/
theorem locate_of_ok (written : Written target text encodingName store (.ok ()) after) :
    ∃ location bytes, Text.encodeAs encodingName text = .ok bytes ∧
      after.locate target = .ok (location, .file bytes) ∧
      ∀ other, other ≠ location → after.file? other = store.file? other := by
  cases written with
  | moved extend encoded vacant found =>
      refine ⟨_, _, encoded, locate_moved vacant found, ?_⟩
      intro other different
      rw [file?_of_find? (find?_moved_of_ne vacant different), extend.file?]

/-- No write takes a directory away. -/
theorem directory {result : Except WriteFailure Unit}
    (written : Written target text encodingName store result after) {directory : Location}
    (there : store.find? directory = some .directory) :
    after.find? directory = some .directory := by
  cases written with
  | refused extend same _ => rw [same, extend.directory there]
  | unencodable extend same _ => rw [same, extend.directory there]
  | moved extend _ vacant found =>
      exact find?_moved_directory vacant found (extend.directory there)

end Written

/-! ## The last step of a path -/

/-- The steps of a path that is handed to the system. -/
def steps (path : String) : List String :=
  ((Path.pieces path.toList).filter (· != [])).map String.ofList

theorem walk_name {store : Store} {path name : String} {directory : Location} {slashed : Bool}
    (found : store.walk path = .ok ⟨directory, .name name, slashed⟩) :
    (steps path).getLast? = some name ∧ name ≠ "." := by
  rw [walk] at found
  split_ifs at found
  all_goals
    simp only at found
    split at found
    next => cases found
    next last isLast =>
      obtain ⟨reached, -, found⟩ := bind_eq_ok.mp found
      have step := congrArg Walked.last (Except.ok.inj found)
      rw [← steps] at isLast
      simp only at step
      split_ifs at step with isDot
      cases step
      exact ⟨isLast, isDot⟩

theorem locate_eq_file {store : Store} {path : String} {location : Location} {content : Bytes}
    (found : store.locate path = .ok (location, .file content)) :
    ∃ directory name, store.walk path = .ok ⟨directory, .name name, false⟩ ∧
      ¬maxName < name.utf8ByteSize ∧ location = directory ++ [name] ∧
      store.find? location = some (.file content) := by
  obtain ⟨⟨directory, last, slashed⟩, walked, found⟩ := bind_eq_ok.mp found
  cases last with
  | here => cases found
  | above => cases found
  | name name =>
      simp only at found
      by_cases long : maxName < name.utf8ByteSize
      · rw [if_pos long] at found
        cases found
      · rw [if_neg long] at found
        split at found
        next => cases found
        next => cases found
        next there =>
          by_cases isSlashed : slashed = true
          · rw [if_pos isSlashed] at found
            cases found
          · rw [if_neg isSlashed] at found
            cases found
            obtain rfl : slashed = false := by simpa using isSlashed
            exact ⟨directory, name, walked, long, rfl, there⟩

theorem getLast?_of_locate {store : Store} {path : String} {location : Location} {content : Bytes}
    (found : store.locate path = .ok (location, .file content)) :
    location.getLast? = (steps path).getLast? := by
  obtain ⟨directory, name, walked, -, rfl, -⟩ := locate_eq_file found
  rw [(walk_name walked).1, List.getLast?_append_of_ne_nil _ (by simp)]
  rfl

/-- A file stays where a path leads to if all directories stay and the file does. -/
theorem locate_kept {earlier later : Store} {path : String} {location : Location} {content : Bytes}
    (kept : ∀ directory, earlier.find? directory = some .directory →
      later.find? directory = some .directory)
    (found : earlier.locate path = .ok (location, .file content))
    (same : later.file? location = earlier.file? location) :
    later.locate path = .ok (location, .file content) := by
  obtain ⟨directory, name, walked, short, place, there⟩ := locate_eq_file found
  have stays : later.find? location = some (.file content) := by
    rw [file?, file?, there] at same
    split at same
    next isFile => rw [isFile, Option.some.inj same]
    next => cases same
  rw [locate, walk_kept kept walked]
  show (if maxName < name.utf8ByteSize then _ else _) = _
  rw [if_neg short, ← place, stays]
  rfl

end Store

end LuaBytecode
