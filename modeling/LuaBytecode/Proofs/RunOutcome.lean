import LuaBytecode.Proofs.ProgramRun

/-!
# Exit codes and files after a run

Which runs end with an exit code, what the code says about the run, and what the run has done to the
files. Everything is read off the course that the run takes.
-/

set_option autoImplicit false

namespace LuaBytecode.Program

open CommandLine (Settings)

variable {compiler : Compiler} {room : Room} {settings : Settings} {store : Store}

/-! ## One course at most -/

theorem Decodes.unique {left right : DecodedFile} (first : Decodes compiler settings store left)
    (second : Decodes compiler settings store right) : left = right := by
  obtain ⟨content, data, read, compiled, decoded⟩ := first
  obtain ⟨otherContent, otherData, otherRead, otherCompiled, otherDecoded⟩ := second
  obtain rfl : content = otherContent := Except.ok.inj (read.symm.trans otherRead)
  obtain rfl : data = otherData := Except.ok.inj (compiled.symm.trans otherCompiled)
  exact Except.ok.inj (decoded.symm.trans otherDecoded)

theorem Renders.unique {file : DecodedFile} {left right : String}
    (first : Renders room settings file left) (second : Renders room settings file right) :
    left = right :=
  Except.ok.inj ((document_eq_ok.mpr first).symm.trans (document_eq_ok.mpr second))

theorem Targets.unique {left right : Path} (first : Targets settings left)
    (second : Targets settings right) : left = right :=
  Except.ok.inj ((outputPath_eq_ok.mpr first).symm.trans (outputPath_eq_ok.mpr second))

theorem Targets.not_void {output : Path} (target : Targets settings output) :
    settings.output ≠ .void := by
  intro void
  rcases target with given | ⟨unset, -⟩
  · rw [void] at given
    cases given
  · rw [void] at unset
    cases unset

theorem Malformed.not_decodes (failed : Malformed compiler settings store) (file : DecodedFile) :
    ¬Decodes compiler settings store file := by
  rintro ⟨otherContent, otherData, otherRead, otherCompiled, otherDecoded⟩
  obtain ⟨content, read, failed⟩ := failed
  obtain rfl : content = otherContent := Except.ok.inj (read.symm.trans otherRead)
  rcases failed with ⟨failure, failed⟩ | ⟨data, fault, compiled, failed⟩
  · rw [failed] at otherCompiled
    cases otherCompiled
  · obtain rfl : data = otherData := Except.ok.inj (compiled.symm.trans otherCompiled)
    rw [failed] at otherDecoded
    cases otherDecoded

theorem Renders.not_unrenderable {file : DecodedFile} {text : String}
    (decoded : Decodes compiler settings store file) (rendered : Renders room settings file text) :
    ¬Unrenderable room settings file := by
  intro fails
  obtain ⟨failure, failed⟩ := (document_eq_error decoded).mpr fails
  rw [document_eq_ok.mpr rendered] at failed
  cases failed

theorem read_of_zero {path : String} (zero : '\x00' ∈ path.toList) :
    store.read path = .error .zeroInPath := by
  rw [Store.read, Store.handingOver, if_pos (by simpa using zero)]

/-! ## Escapes -/

/-- The runs that end without an exit code: the path of the input holds the zero character; the file
cannot be shown as asked; the output has no value for its path; or the path of the output holds the
zero character and the write gets as far as to find it. -/
inductive Escapes (compiler : Compiler) (room : Room) (settings : Settings) (store : Store) :
    Prop where
  | zeroInput (zero : '\x00' ∈ settings.path.text.toList)
  | unrenderable {file : DecodedFile} (decoded : Decodes compiler settings store file)
      (fails : Unrenderable room settings file)
  | voidOutput {file : DecodedFile} {text : String}
      (decoded : Decodes compiler settings store file) (rendered : Renders room settings file text)
      (saving : settings.stdout = false) (void : settings.output = .void)
  | zeroOutput {file : DecodedFile} {text : String} {output : Path}
      (decoded : Decodes compiler settings store file) (rendered : Renders room settings file text)
      (saving : settings.stdout = false) (target : Targets settings output)
      (zero : '\x00' ∈ output.text.toList)
      (failed : (Store.write output.text text "utf-8" store).result =
        .error (.store .zeroInPath))

theorem Course.escapes {failure : Escape} {after : Store}
    (course : Course compiler room settings store (.escaped failure) after) :
    Escapes compiler room settings store := by
  cases course with
  | zeroInput refused => exact .zeroInput (Store.handingOver_eq_error refused rfl)
  | unrendered decoded failed =>
      exact .unrenderable decoded ((document_eq_error decoded).mp ⟨_, failed⟩)
  | untargeted decoded rendered saving void => exact .voidOutput decoded rendered saving void
  | zeroOutput decoded rendered saving target failed =>
      rcases write_eq_error failed with ⟨_, absurd⟩ | ⟨-, zero⟩
      · cases absurd
      · exact .zeroOutput decoded rendered saving target zero failed

theorem Decodes.clear {file : DecodedFile} (decoded : Decodes compiler settings store file) :
    '\x00' ∉ settings.path.text.toList := by
  intro zero
  obtain ⟨content, data, read, -, -⟩ := decoded
  rw [read_of_zero zero] at read
  cases read

private theorem not_escapes_of_not_decodes
    (notZero : store.read settings.path.text ≠ .error .zeroInPath)
    (none : ∀ file, ¬Decodes compiler settings store file) :
    ¬Escapes compiler room settings store := by
  intro escapes
  cases escapes with
  | zeroInput zero => exact notZero (read_of_zero zero)
  | unrenderable decoded _ => exact none _ decoded
  | voidOutput decoded _ _ _ => exact none _ decoded
  | zeroOutput decoded _ _ _ _ _ => exact none _ decoded

private theorem not_escapes_of_rendered {file : DecodedFile} {text : String}
    (decoded : Decodes compiler settings store file) (rendered : Renders room settings file text)
    (saved : settings.stdout = false → ∃ output, Targets settings output ∧
      (Store.write output.text text "utf-8" store).result ≠ .error (.store .zeroInPath)) :
    ¬Escapes compiler room settings store := by
  intro escapes
  cases escapes with
  | zeroInput zero => exact decoded.clear zero
  | unrenderable otherDecoded fails =>
      obtain rfl := decoded.unique otherDecoded
      exact rendered.not_unrenderable decoded fails
  | voidOutput _ _ saving void =>
      obtain ⟨output, target, -⟩ := saved saving
      exact target.not_void void
  | zeroOutput otherDecoded otherRendered saving otherTarget _ failed =>
      obtain ⟨output, target, notZero⟩ := saved saving
      obtain rfl := decoded.unique otherDecoded
      obtain rfl := rendered.unique otherRendered
      obtain rfl := target.unique otherTarget
      exact notZero failed

theorem Course.not_escapes {code : Nat} {after : Store}
    (course : Course compiler room settings store (.exit code) after) :
    ¬Escapes compiler room settings store := by
  cases course with
  | unread refused =>
      refine not_escapes_of_not_decodes (by simp [refused]) ?_
      rintro file ⟨content, data, read, -, -⟩
      rw [refused] at read
      cases read
  | malformed failed =>
      obtain ⟨content, read, -⟩ := id failed
      exact not_escapes_of_not_decodes (by simp [read]) failed.not_decodes
  | printed decoded rendered printing =>
      refine not_escapes_of_rendered decoded rendered fun saving => ?_
      rw [printing] at saving
      cases saving
  | unwritten decoded rendered _ target failed =>
      exact not_escapes_of_rendered decoded rendered fun _ => ⟨_, target, by simp [failed]⟩
  | written decoded rendered _ target succeeded =>
      exact not_escapes_of_rendered decoded rendered fun _ => ⟨_, target, by simp [succeeded]⟩

theorem Course.code_le {code : Nat} {after : Store}
    (course : Course compiler room settings store (.exit code) after) : code ≤ 2 := by
  cases course <;> decide

/-- A run that was accepted ends with the exit code zero, one or two unless it is one of the runs
that escape. -/
theorem run_exits_iff {words : List String} (compiler : Compiler) (room : Room) (terminal : Bool)
    (store : Store) (accepted : CommandLine.parse words = .run settings) :
    (∃ code, code ≤ 2 ∧ (run compiler room terminal words store).ending = .exit code) ↔
      ¬Escapes compiler room settings store := by
  have course := run_course compiler room terminal store accepted
  cases ended : (run compiler room terminal words store).ending with
  | exit code =>
      rw [ended] at course
      exact ⟨fun _ => course.not_escapes, fun _ => ⟨code, course.code_le, rfl⟩⟩
  | escaped failure =>
      rw [ended] at course
      refine ⟨?_, fun none => absurd course.escapes none⟩
      rintro ⟨_, _, absurd⟩
      cases absurd

/-- A file with integer numbers of 130 bytes and the constant `2 ^ 1032`. -/
def wideFile : Bytes :=
  [0x1b, 0x4c, 0x75, 0x61, 0x51, 0, 1, 1, 1, 4, 130, 1,
    0, 0, 0, 0, 0, 2, 2,
    1, 0x1e, 0, 0x80, 0,
    1, 3] ++ List.replicate 129 0 ++ [1,
    0, 0, 0, 0]

def wideStore : Store := ⟨[(["p.luac"], .file wideFile)]⟩

theorem run_exits_iff_wideStore :
    CommandLine.parse ["p.luac"] = .run { path := ⟨.none, ["p.luac"]⟩ } ∧
      ¬Escapes none .unbounded { path := ⟨.none, ["p.luac"]⟩ } wideStore := by
  have accepted : CommandLine.parse ["p.luac"] = .run { path := ⟨.none, ["p.luac"]⟩ } := by
    decide +kernel
  have ended : (run none .unbounded false ["p.luac"] wideStore).ending = .exit 0 := by
    decide +kernel
  exact ⟨accepted, (run_exits_iff none _ false wideStore accepted).mp ⟨0, by decide, ended⟩⟩

theorem run_wideStore :
    CommandLine.parse ["p.luac", "--listing"] =
        .run { path := ⟨.none, ["p.luac"]⟩, listing := true } ∧
      ¬∃ code, (run none .unbounded false ["p.luac", "--listing"] wideStore).ending =
        .exit code := by
  have ended : (run none .unbounded false ["p.luac", "--listing"] wideStore).ending =
      .escaped (.numeral .integerTooLarge) := by decide +kernel
  refine ⟨by decide +kernel, ?_⟩
  rintro ⟨code, exits⟩
  rw [ended] at exits
  cases exits

/-! ## Files -/

/-- What an exit code says about a run, and what the run has done to the files. -/
structure Accounts (compiler : Compiler) (room : Room) (settings : Settings) (store : Store)
    (code : Nat) (after : Store) : Prop where
  system : code = 2 ↔
    (∃ failure, store.read settings.path.text = .error (.system failure)) ∨
      ∃ file text output failure, Decodes compiler settings store file ∧
        Renders room settings file text ∧ settings.stdout = false ∧ Targets settings output ∧
        (Store.write output.text text "utf-8" store).result = .error (.store (.system failure))
  format : code = 1 ↔ Malformed compiler settings store
  success : code ≠ 2 → code ≠ 1 → code = 0
  -- A run that failed, or that printed the document, leaves every file as it was.
  untouched : code ≠ 0 ∨ settings.stdout = true →
    ∀ location, after.file? location = store.file? location
  -- Any other run writes the document to the output and changes no other file.
  saved : code = 0 → settings.stdout = false →
    ∃ file text output location, Decodes compiler settings store file ∧
      Renders room settings file text ∧ Targets settings output ∧
      after.locate output.text = .ok (location, .file (Bytes.ofText text)) ∧
      ∀ other, other ≠ location → after.file? other = store.file? other
  -- Without a path for the output the input stays as it was.
  kept : settings.output = .unset → ∀ location content,
    store.locate settings.path.text = .ok (location, .file content) →
    after.locate settings.path.text = .ok (location, .file content)

private theorem Course.system_iff {code : Nat} {after : Store}
    (course : Course compiler room settings store (.exit code) after) :
    code = 2 ↔ (∃ failure, store.read settings.path.text = .error (.system failure)) ∨
      ∃ file text output failure, Decodes compiler settings store file ∧
        Renders room settings file text ∧ settings.stdout = false ∧ Targets settings output ∧
        (Store.write output.text text "utf-8" store).result =
          .error (.store (.system failure)) := by
  have readable {file : DecodedFile} (decoded : Decodes compiler settings store file) :
      ¬∃ failure, store.read settings.path.text = .error (.system failure) := by
    obtain ⟨content, data, read, -⟩ := decoded
    rintro ⟨failure, refused⟩
    rw [read] at refused
    cases refused
  cases course with
  | unread refused => exact ⟨fun _ => .inl ⟨_, refused⟩, fun _ => rfl⟩
  | malformed failed =>
      refine ⟨by simp, ?_⟩
      rintro (⟨failure, refused⟩ | ⟨file, -, -, -, decoded, -⟩)
      · obtain ⟨content, read, -⟩ := failed
        rw [read] at refused
        cases refused
      · exact absurd decoded (failed.not_decodes file)
  | printed decoded rendered printing =>
      refine ⟨by simp, ?_⟩
      rintro (refused | ⟨file, -, -, -, -, -, saving, -⟩)
      · exact absurd refused (readable decoded)
      · rw [printing] at saving
        cases saving
  | unwritten decoded rendered saving target failed =>
      exact ⟨fun _ => .inr ⟨_, _, _, _, decoded, rendered, saving, target, failed⟩, fun _ => rfl⟩
  | written decoded rendered saving target succeeded =>
      refine ⟨by simp, ?_⟩
      rintro (refused | ⟨file, text, output, failure, otherDecoded, otherRendered, -, otherTarget,
        failed⟩)
      · exact absurd refused (readable decoded)
      · obtain rfl := decoded.unique otherDecoded
        obtain rfl := rendered.unique otherRendered
        obtain rfl := target.unique otherTarget
        rw [succeeded] at failed
        cases failed

private theorem Course.format_iff {code : Nat} {after : Store}
    (course : Course compiler room settings store (.exit code) after) :
    code = 1 ↔ Malformed compiler settings store := by
  cases course with
  | unread refused =>
      refine ⟨by simp, ?_⟩
      rintro ⟨content, read, -⟩
      rw [refused] at read
      cases read
  | malformed failed => exact ⟨fun _ => failed, fun _ => rfl⟩
  | printed decoded _ _ =>
      exact ⟨by simp, fun failed => absurd decoded (failed.not_decodes _)⟩
  | unwritten decoded _ _ _ _ =>
      exact ⟨by simp, fun failed => absurd decoded (failed.not_decodes _)⟩
  | written decoded _ _ _ _ =>
      exact ⟨by simp, fun failed => absurd decoded (failed.not_decodes _)⟩

/-- No course takes a directory away. -/
theorem Course.directory {ending : Ending} {after : Store}
    (course : Course compiler room settings store ending after) {directory : Location}
    (there : store.find? directory = some .directory) :
    after.find? directory = some .directory := by
  cases course with
  | unwritten => exact (Store.write_written _ _ _ store).directory there
  | zeroOutput => exact (Store.write_written _ _ _ store).directory there
  | written => exact (Store.write_written _ _ _ store).directory there
  | _ => exact there

theorem Course.untouched {code : Nat} {after : Store}
    (course : Course compiler room settings store (.exit code) after)
    (still : code ≠ 0 ∨ settings.stdout = true) (location : Location) :
    after.file? location = store.file? location := by
  cases course with
  | unread => rfl
  | malformed => rfl
  | printed => rfl
  | @unwritten _ text output _ _ _ _ _ failed =>
      have written := Store.write_written output.text text "utf-8" store
      rw [failed] at written
      exact written.file?_of_error location
  | written _ _ saving _ _ =>
      rcases still with nonzero | printing
      · exact absurd rfl nonzero
      · rw [saving] at printing
        cases printing

theorem Course.saved {after : Store} (course : Course compiler room settings store (.exit 0) after)
    (saving : settings.stdout = false) :
    ∃ file text output location, Decodes compiler settings store file ∧
      Renders room settings file text ∧ Targets settings output ∧
      after.locate output.text = .ok (location, .file (Bytes.ofText text)) ∧
      ∀ other, other ≠ location → after.file? other = store.file? other := by
  cases course with
  | printed _ _ printing =>
      rw [saving] at printing
      cases printing
  | @written file text output decoded rendered _ target succeeded =>
      have written := Store.write_written output.text text "utf-8" store
      rw [succeeded] at written
      obtain ⟨location, bytes, encoded, located, others⟩ := written.locate_of_ok
      rw [encodeAs_utf8] at encoded
      cases encoded
      exact ⟨file, text, output, location, decoded, rendered, target, located, others⟩

/-- The default output is another file than the input. -/
theorem Targets.name_ne {output : Path} (clean : settings.path.IsClean)
    (unset : settings.output = .unset) (target : Targets settings output) {after : Store}
    {location outputLocation : Location} {content written : Bytes}
    (input : store.locate settings.path.text = .ok (location, .file content))
    (found : after.locate output.text = .ok (outputLocation, .file written)) :
    location ≠ outputLocation := by
  have named := Path.parts_ne_nil input
  rcases target with given | ⟨-, beside⟩
  · rw [unset] at given
    cases given
  · have known : (if settings.listing then ".txt" else ".json") = ".txt" ∨
        (if settings.listing then ".txt" else ".json") = ".json" := by
      cases settings.listing <;> simp
    obtain ⟨name, isOutput, different, notEmpty, plain⟩ := Path.outputFor_eq clean named known
    obtain rfl : settings.path.replaceName name = output :=
      Except.ok.inj (isOutput.symm.trans beside)
    have inputName := Store.getLast?_of_locate input
    have outputName := Store.getLast?_of_locate found
    rw [Path.steps_text clean named, Path.getLast?_parts named] at inputName
    have renamed : (settings.path.replaceName name).parts ≠ [] := by simp [Path.replaceName]
    rw [Path.steps_text (Path.isClean_replaceName clean notEmpty plain) renamed,
      Path.getLast?_parts renamed, Path.name_replaceName] at outputName
    rintro rfl
    rw [inputName] at outputName
    exact different (Option.some.inj outputName).symm

theorem Course.kept {code : Nat} {after : Store} (clean : settings.path.IsClean)
    (course : Course compiler room settings store (.exit code) after)
    (unset : settings.output = .unset) {location : Location} {content : Bytes}
    (found : store.locate settings.path.text = .ok (location, .file content)) :
    after.locate settings.path.text = .ok (location, .file content) := by
  refine Store.locate_kept (fun _ there => course.directory there) found ?_
  by_cases still : code ≠ 0 ∨ settings.stdout = true
  · exact course.untouched still location
  · obtain ⟨isZero, saving⟩ : code = 0 ∧ settings.stdout = false := by simpa using still
    subst isZero
    obtain ⟨_, _, output, outputLocation, -, -, target, located, others⟩ := course.saved saving
    exact others location (target.name_ne clean unset found located)

/-- The exit code of a run says what happened to its input and output, and the run changes no file
but its output, whole. -/
theorem run_accounts {words : List String} {code : Nat} (compiler : Compiler) (room : Room)
    (terminal : Bool) (store : Store) (accepted : CommandLine.parse words = .run settings)
    (returned : (run compiler room terminal words store).ending = .exit code) :
    Accounts compiler room settings store code (run compiler room terminal words store).store := by
  have course := run_course compiler room terminal store accepted
  rw [returned] at course
  refine ⟨course.system_iff, course.format_iff, ?_, course.untouched, ?_, ?_⟩
  · intro notTwo notOne
    have := course.code_le
    omega
  · rintro rfl saving
    exact course.saved saving
  · intro unset location content found
    exact course.kept (isClean_of_accepted accepted) unset found

def bareStore : Store := ⟨[(["t.luac"], .file DecodedFile.bareFile)]⟩

theorem run_accounts_bareStore :
    CommandLine.parse ["t.luac", "--listing"] =
        .run { path := ⟨.none, ["t.luac"]⟩, listing := true } ∧
      (run none .unbounded false ["t.luac", "--listing"] bareStore).ending = .exit 0 ∧
      Accounts none .unbounded { path := ⟨.none, ["t.luac"]⟩, listing := true } bareStore 0
        (run none .unbounded false ["t.luac", "--listing"] bareStore).store := by
  have accepted : CommandLine.parse ["t.luac", "--listing"] =
      .run { path := ⟨.none, ["t.luac"]⟩, listing := true } := by decide +kernel
  have returned :
      (run none .unbounded false ["t.luac", "--listing"] bareStore).ending = .exit 0 := by
    decide +kernel
  exact ⟨accepted, returned, run_accounts none _ false bareStore accepted returned⟩

end LuaBytecode.Program
