import LuaBytecode.Program
import LuaBytecode.Proofs.JsonLayout
import LuaBytecode.Proofs.ListingFailure
import LuaBytecode.Proofs.OutputPath
import LuaBytecode.Proofs.Results

/-!
# Courses of the program

A run that was accepted takes one of a few courses, each told by what the parts of the program
answer: reading, compiling, decoding, rendering and writing. The exit code and the files after the
run follow from the course.
-/

set_option autoImplicit false

namespace LuaBytecode.Program

open CommandLine (Settings)

/-- The input is there, has been compiled if so asked, and decodes to a file. -/
def Decodes (compiler : Compiler) (settings : Settings) (store : Store) (file : DecodedFile) :
    Prop :=
  ∃ content data, store.read settings.path.text = .ok content ∧
    (bytecode compiler settings content).result = .ok data ∧
    (decode data ⟨settings.stripDebugging, settings.instructionObjects⟩).result = .ok file

/-- The input could not be compiled, or what was compiled could not be decoded. -/
def Malformed (compiler : Compiler) (settings : Settings) (store : Store) : Prop :=
  ∃ content, store.read settings.path.text = .ok content ∧
    ((∃ failure, (bytecode compiler settings content).result = .error failure) ∨
      ∃ data fault, (bytecode compiler settings content).result = .ok data ∧
        (decode data ⟨settings.stripDebugging, settings.instructionObjects⟩).result = .error fault)

/-- The text of a file that the settings ask for. -/
inductive Renders (room : Room) (settings : Settings) (file : DecodedFile) (text : String) :
    Prop where
  | listing (wanted : settings.listing = true) (written : file.listing = .ok text)
  | compact (wanted : settings.listing = false) (indent : settings.indent = .unset)
      (written : file.jsonText none = .ok text)
  | indented {width : Int} (wanted : settings.listing = false)
      (indent : settings.indent = .value width) (held : room file width = true)
      (written : file.jsonText (some width) = .ok text)

/-- The path of the output that the settings ask for, or that goes with the input. -/
inductive Targets (settings : Settings) (output : Path) : Prop where
  | chosen (given : settings.output = .value output)
  | beside (unset : settings.output = .unset)
      (found : settings.path.outputFor (if settings.listing then ".txt" else ".json") = .ok output)

theorem isIndent_of_jsonText {file : DecodedFile} {width : Int} {text : String}
    (written : file.jsonText (some width) = .ok text) : Json.isIndent width = true :=
  Json.isIndent_iff.mpr (DecodedFile.jsonText_eq_ok.mp ⟨text, written⟩ width rfl)

theorem document_eq_ok {room : Room} {settings : Settings} {file : DecodedFile} {text : String} :
    document room settings file = .ok text ↔ Renders room settings file text := by
  rw [document]
  constructor
  · intro found
    split at found
    next wanted => exact .listing wanted (mapError_eq_ok.mp found)
    next wanted =>
      have wanted : settings.listing = false := by simpa using wanted
      split at found
      next indent => exact .compact wanted indent (mapError_eq_ok.mp found)
      next => cases found
      next width indent =>
        split at found
        next => cases found
        next held =>
          have written := mapError_eq_ok.mp found
          exact .indented wanted indent (by simpa [isIndent_of_jsonText written] using held) written
  · rintro (⟨wanted, written⟩ | ⟨wanted, indent, written⟩ | ⟨wanted, indent, held, written⟩)
    · rw [if_pos wanted, written]
      rfl
    · simp only [wanted, indent, written]
      rfl
    · simp only [wanted, indent, held, written, Bool.not_true, Bool.and_false]
      rfl

theorem outputPath_eq_ok {settings : Settings} {output : Path} :
    outputPath settings = .ok output ↔ Targets settings output := by
  rw [outputPath]
  constructor
  · intro found
    split at found
    next path given =>
      cases found
      exact .chosen given
    next => cases found
    next unset => exact .beside unset (mapError_eq_ok.mp found)
  · rintro (given | ⟨unset, found⟩)
    · rw [given]
    · rw [unset, found]
      rfl

/-- The file cannot be shown in the way that the settings ask for. -/
inductive Unrenderable (room : Room) (settings : Settings) (file : DecodedFile) : Prop where
  | overflow (wanted : settings.listing = true) {function : Prototype} {value : Int}
      (member : function ∈ file.tree.walk)
      (constant : .number (.integer value) ∈ function.body.constants)
      (large : 2 ^ 1024 - 2 ^ 970 ≤ value.natAbs)
  | voidIndent (wanted : settings.listing = false) (indent : settings.indent = .void)
  | outOfRange {width : Int} (wanted : settings.listing = false)
      (indent : settings.indent = .value width)
      (outside : width < -(2 ^ 63) ∨ 2 ^ 63 ≤ width)
  -- Which texts are too large is for the machine to say.
  | outOfMemory {width : Int} (wanted : settings.listing = false)
      (indent : settings.indent = .value width)
      (inRange : -(2 ^ 63) ≤ width ∧ width < 2 ^ 63) (refused : room file width = false)

theorem indented_eq_error {room : Room} {file : DecodedFile} {width : Int} :
    (∃ failure, (if Json.isIndent width && !room file width then .error .memory
        else (file.jsonText (some width)).mapError Escape.indent) = .error failure) ↔
      (width < -(2 ^ 63) ∨ 2 ^ 63 ≤ width) ∨
        (-(2 ^ 63) ≤ width ∧ width < 2 ^ 63) ∧ room file width = false := by
  split
  next refused =>
    rw [Bool.and_eq_true, Json.isIndent_iff, Bool.not_eq_true'] at refused
    exact ⟨fun _ => .inr refused, fun _ => ⟨_, rfl⟩⟩
  next held =>
    rw [Bool.and_eq_true, Json.isIndent_iff, Bool.not_eq_true'] at held
    rw [mapError_eq_error, DecodedFile.jsonText_eq_ok]
    simp only [Option.mem_some_iff, forall_eq']
    constructor
    · intro outside
      exact .inl (by omega)
    · rintro (outside | refused)
      · omega
      · exact absurd refused held

theorem document_eq_error {compiler : Compiler} {room : Room} {settings : Settings} {store : Store}
    {file : DecodedFile} (decoded : Decodes compiler settings store file) :
    (∃ failure, document room settings file = .error failure) ↔
      Unrenderable room settings file := by
  obtain ⟨-, data, -, -, decoded⟩ := decoded
  rw [document]
  cases wanted : settings.listing with
  | true =>
      rw [if_pos rfl, mapError_eq_error, DecodedFile.listing_eq_ok decoded]
      constructor
      · intro fails
        push Not at fails
        obtain ⟨function, member, value, constant, large⟩ := fails
        exact .overflow wanted member constant large
      · rintro fails all
        cases fails with
        | overflow _ member constant large =>
            exact absurd (all _ member _ constant) (Nat.not_lt.mpr large)
        | voidIndent json _ => simp [wanted] at json
        | outOfRange json _ _ => simp [wanted] at json
        | outOfMemory json _ _ _ => simp [wanted] at json
  | false =>
      rw [if_neg (by decide)]
      cases indent : settings.indent with
      | unset =>
          simp only [mapError_eq_error, DecodedFile.jsonText_eq_ok]
          constructor
          · intro fails
            exact absurd (by simp) fails
          · rintro fails
            cases fails with
            | overflow listing _ _ _ => simp [wanted] at listing
            | voidIndent _ void => simp [indent] at void
            | outOfRange _ value _ => simp [indent] at value
            | outOfMemory _ value _ _ => simp [indent] at value
      | void => exact ⟨fun _ => .voidIndent wanted indent, fun _ => ⟨_, rfl⟩⟩
      | value width =>
          simp only [indented_eq_error]
          constructor
          · rintro (outside | ⟨inRange, refused⟩)
            · exact .outOfRange wanted indent outside
            · exact .outOfMemory wanted indent inRange refused
          · rintro fails
            cases fails with
            | overflow listing _ _ _ => simp [wanted] at listing
            | voidIndent _ void => simp [indent] at void
            | outOfRange _ value outside =>
                cases indent.symm.trans value
                exact .inl outside
            | outOfMemory _ value inRange refused =>
                cases indent.symm.trans value
                exact .inr ⟨inRange, refused⟩

/-! ## Courses -/

/-- The ways a run can go: how it ends and which store it leaves. -/
inductive Course (compiler : Compiler) (room : Room) (settings : Settings) (store : Store) :
    Ending → Store → Prop where
  | unread {failure : SystemFailure}
      (refused : store.read settings.path.text = .error (.system failure)) :
      Course compiler room settings store (.exit 2) store
  | zeroInput (refused : store.read settings.path.text = .error .zeroInPath) :
      Course compiler room settings store (.escaped (.load .zeroInPath)) store
  | malformed (failed : Malformed compiler settings store) :
      Course compiler room settings store (.exit 1) store
  | unrendered {file : DecodedFile} {failure : Escape}
      (decoded : Decodes compiler settings store file)
      (failed : document room settings file = .error failure) :
      Course compiler room settings store (.escaped failure) store
  | printed {file : DecodedFile} {text : String} (decoded : Decodes compiler settings store file)
      (rendered : Renders room settings file text) (printing : settings.stdout = true) :
      Course compiler room settings store (.exit 0) store
  | untargeted {file : DecodedFile} {text : String}
      (decoded : Decodes compiler settings store file) (rendered : Renders room settings file text)
      (saving : settings.stdout = false) (void : settings.output = .void) :
      Course compiler room settings store (.escaped .voidOutput) store
  | unwritten {file : DecodedFile} {text : String} {output : Path} {failure : SystemFailure}
      (decoded : Decodes compiler settings store file) (rendered : Renders room settings file text)
      (saving : settings.stdout = false) (target : Targets settings output)
      (failed : (Store.write output.text text "utf-8" store).result =
        .error (.store (.system failure))) :
      Course compiler room settings store (.exit 2)
        (Store.write output.text text "utf-8" store).store
  | zeroOutput {file : DecodedFile} {text : String} {output : Path}
      (decoded : Decodes compiler settings store file) (rendered : Renders room settings file text)
      (saving : settings.stdout = false) (target : Targets settings output)
      (failed : (Store.write output.text text "utf-8" store).result =
        .error (.store .zeroInPath)) :
      Course compiler room settings store (.escaped (.write (.store .zeroInPath)))
        (Store.write output.text text "utf-8" store).store
  | written {file : DecodedFile} {text : String} {output : Path}
      (decoded : Decodes compiler settings store file) (rendered : Renders room settings file text)
      (saving : settings.stdout = false) (target : Targets settings output)
      (succeeded : (Store.write output.text text "utf-8" store).result = .ok ()) :
      Course compiler room settings store (.exit 0)
        (Store.write output.text text "utf-8" store).store

theorem isClean_of_accepted {words : List String} {settings : Settings}
    (accepted : CommandLine.parse words = .run settings) : settings.path.IsClean := by
  rw [CommandLine.parse] at accepted
  split at accepted
  next => cases accepted
  next =>
    split at accepted
    next => cases accepted
    next => cases accepted
    next =>
      split at accepted
      next => cases accepted
      next =>
        cases accepted
        exact Path.isClean_ofText _
      next => cases accepted

theorem locate_of_read {store : Store} {path : String} {content : Bytes}
    (found : store.read path = .ok content) :
    ∃ location, store.locate path = .ok (location, .file content) := by
  obtain ⟨-, answer⟩ := Store.handingOver_eq_ok found
  split at answer
  next location content located =>
    cases answer
    exact ⟨location, located⟩
  next => cases answer
  next => cases answer

theorem encodeAs_utf8 (text : String) : Text.encodeAs "utf-8" text = .ok (Bytes.ofText text) := by
  have name : Text.Encoding.ofName "utf-8" = .ok (.unicode .utf8 false) := rfl
  rw [Text.encodeAs, name]
  rfl

/-- There is always a path for the output of a file that was read, unless it has no value. -/
theorem outputPath_eq_error {settings : Settings} {store : Store} {content : Bytes}
    {failure : Escape} (clean : settings.path.IsClean)
    (read : store.read settings.path.text = .ok content)
    (failed : outputPath settings = .error failure) :
    settings.output = .void ∧ failure = .voidOutput := by
  rw [outputPath] at failed
  split at failed
  next => cases failed
  next void =>
    cases failed
    exact ⟨void, rfl⟩
  next =>
    obtain ⟨location, located⟩ := locate_of_read read
    have known : (if settings.listing then ".txt" else ".json") = ".txt" ∨
        (if settings.listing then ".txt" else ".json") = ".json" := by
      cases settings.listing <;> simp
    obtain ⟨name, found, -⟩ := Path.outputFor_eq clean (Path.parts_ne_nil located) known
    rw [found] at failed
    cases failed

/-- Writing in UTF-8 never fails because of the text. -/
theorem write_eq_error {target text : String} {store : Store} {failure : WriteFailure}
    (failed : (Store.write target text "utf-8" store).result = .error failure) :
    (∃ cause, failure = .store (.system cause)) ∨
      failure = .store .zeroInPath ∧ '\x00' ∈ target.toList := by
  have written := Store.write_written target text "utf-8" store
  rw [failed] at written
  cases written with
  | @refused _ _ cause _ _ zero =>
      cases cause with
      | system cause => exact .inl ⟨cause, rfl⟩
      | zeroInPath => exact .inr ⟨rfl, zero rfl⟩
  | unencodable _ _ unencodable =>
      rw [encodeAs_utf8] at unencodable
      cases unencodable

/-- Every accepted run takes one of these courses. -/
theorem run_course {words : List String} {settings : Settings} (compiler : Compiler) (room : Room)
    (terminal : Bool) (store : Store) (accepted : CommandLine.parse words = .run settings) :
    Course compiler room settings store (run compiler room terminal words store).ending
      (run compiler room terminal words store).store := by
  have clean := isClean_of_accepted accepted
  simp only [run, accepted, draft]
  cases read : store.read settings.path.text with
  | error failure =>
      cases failure with
      | system failure => exact .unread read
      | zeroInPath => exact .zeroInput read
  | ok content =>
      simp only
      cases compiled : (bytecode compiler settings content).result with
      | error failure => exact .malformed ⟨content, read, .inl ⟨failure, compiled⟩⟩
      | ok data =>
          simp only [draftBytecode]
          cases decoded : (decode data (options settings)).result with
          | error fault =>
              exact .malformed ⟨content, read, .inr ⟨data, fault, compiled, decoded⟩⟩
          | ok file =>
              have decodes : Decodes compiler settings store file :=
                ⟨content, data, read, compiled, decoded⟩
              simp only
              cases found : document room settings file with
              | error failure => exact .unrendered decodes found
              | ok text =>
                  have rendered := document_eq_ok.mp found
                  simp only [dispatch]
                  cases printing : settings.stdout with
                  | true => exact .printed decodes rendered printing
                  | false =>
                      cases target : outputPath settings with
                      | error failure =>
                          obtain ⟨void, rfl⟩ := outputPath_eq_error clean read target
                          exact .untargeted decodes rendered printing void
                      | ok output =>
                          have targets := outputPath_eq_ok.mp target
                          simp only [Bool.false_eq_true, if_false]
                          cases result : (Store.write output.text text "utf-8" store).result with
                          | ok _ => exact .written decodes rendered printing targets result
                          | error failure =>
                              rcases write_eq_error result with ⟨cause, rfl⟩ | ⟨rfl, -⟩
                              · exact .unwritten decodes rendered printing targets result
                              · exact .zeroOutput decodes rendered printing targets result

end LuaBytecode.Program
