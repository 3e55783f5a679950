import LuaBytecode.Proofs.CommandWords
import LuaBytecode.Proofs.MoreData
import LuaBytecode.Proofs.Notes
import LuaBytecode.Proofs.RunOutcome

/-!
# Standard output

The log and the document share one stream. Almost all that is noted while a file is decoded is for
debugging, and is not shown unless that was asked for. What is shown all the same are the warnings
of the file: that its version is not the supported one, and that bytes follow the root prototype.
-/

set_option autoImplicit false

namespace LuaBytecode

/-! ## Warnings -/

namespace Log

def Event.IsDebug (event : Event) : Prop :=
  event.record.level = Level.debug

namespace Console

variable {console : Console} {events : List Event}

/-- What a console shows of the given events. -/
def shown (console : Console) (events : List Event) : String :=
  console.lines (events.map Event.record)

theorem shown_cons (event : Event) (events : List Event) :
    console.shown (event :: events) = console.line event.record ++ console.shown events := by
  rw [shown, shown, lines, lines, List.map_cons, List.map_cons, String.join_cons]

theorem shown_append (before after : List Event) :
    console.shown (before ++ after) = console.shown before ++ console.shown after := by
  induction before with
  | nil => exact String.empty_append.symm
  | cons event events ih =>
      rw [List.cons_append, shown_cons, ih, shown_cons, String.append_assoc]

theorem shown_of_isDebug (terse : console.verbose = false)
    (debug : ∀ event ∈ events, event.IsDebug) : console.shown events = "" := by
  induction events with
  | nil => rfl
  | cons event events ih =>
      obtain ⟨here, later⟩ := List.forall_mem_cons.mp debug
      have low : event.record.level < console.threshold := by
        rw [here, threshold, terse]
        decide
      rw [shown_cons, line, if_pos low, ih later, String.empty_append]

theorem line_ne_empty {record : Record} (high : ¬record.level < console.threshold) :
    console.line record ≠ "" := by
  rw [line, if_neg high]
  intro none
  have chars := congrArg String.toList none
  rw [String.toList_append] at chars
  exact absurd (List.append_eq_nil_iff.mp chars).2 (by decide)

end Console

end Log

namespace DecodedFile

def trailingWarnings (file : DecodedFile) : List Log.Event :=
  if file.trailing != 0 then [.trailingBytes file.trailing file.consumed] else []

/-- What is worth a warning in a decoded file. -/
def warnings (file : DecodedFile) : List Log.Event :=
  file.header.warnings ++ file.trailingWarnings

variable {file : DecodedFile}

theorem warnings_eq_nil :
    file.warnings = [] ↔
      file.header.version = Header.supportedVersion ∧ file.trailing = 0 := by
  rw [warnings, List.append_eq_nil_iff, Header.warnings, trailingWarnings]
  simp

theorem level_of_mem_warnings {event : Log.Event} (member : event ∈ file.warnings) :
    event.record.level = Log.Level.warning := by
  rw [warnings, List.mem_append, Header.warnings, trailingWarnings] at member
  rcases member with version | trailing
  · split at version
    · obtain rfl := List.mem_singleton.mp version
      rfl
    · cases version
  · split at trailing
    · obtain rfl := List.mem_singleton.mp trailing
      rfl
    · cases trailing

/-- Every warning is shown. -/
theorem shown_warnings_eq_empty {console : Log.Console} :
    console.shown file.warnings = "" ↔ file.warnings = [] := by
  constructor
  · intro none
    cases found : file.warnings with
    | nil => rfl
    | cons event others =>
        rw [found, Log.Console.shown_cons] at none
        have level : event.record.level = Log.Level.warning :=
          level_of_mem_warnings (by rw [found]; exact List.mem_cons_self)
        have high : ¬event.record.level < console.threshold := by
          rw [level, Log.Console.threshold]
          split <;> decide
        have chars := congrArg String.toList none
        rw [String.toList_append] at chars
        have first := (List.append_eq_nil_iff.mp chars).1
        exact absurd (String.toList_injective first) (Log.Console.line_ne_empty high)
  · intro none
    rw [none]
    rfl

end DecodedFile

/-- Besides the warnings of the file, everything that is noted of it is for debugging. -/
theorem events_of_decode {data : Bytes} {options : Options} {file : DecodedFile}
    (succeeded : (decode data options).result = .ok file) :
    ∃ treeEvents : List Log.Event, (∀ event ∈ treeEvents, event.IsDebug) ∧
      (decode data options).events =
        (file.header.warnings ++ [.headerRead file.header]) ++ (treeEvents ++
          (file.trailingWarnings ++ [.decoded file.tree.count file.consumed])) := by
  have logged : (DecodedFile.read options).Logs data.toArray 0 file _ _ :=
    ⟨⟨succeeded, rfl⟩, rfl⟩
  obtain ⟨header, middle, _, _, ⟨headerTaken, rfl⟩, logged, joined⟩ := logged.split
  obtain ⟨tree, stop, treeEvents, _, ⟨-, treeNoted⟩, logged, afterHeader⟩ := logged.split
  obtain ⟨_, _, left, logged⟩ := logged.pass rfl
  obtain ⟨_, _, cursor, logged⟩ := logged.pass rfl
  obtain ⟨_, _, _, _, warned, logged, afterTree⟩ := logged.split
  obtain ⟨_, _, _, _, told, returned, afterWarning⟩ := logged.split
  obtain ⟨rfl, rfl⟩ := Reader.takes_remaining.mp left
  obtain ⟨rfl, rfl⟩ := Reader.takes_offset.mp cursor
  obtain ⟨-, rfl⟩ := Reader.logs_noteIf.mp warned
  obtain ⟨-, rfl⟩ := Reader.logs_note.mp told
  obtain ⟨⟨rfl, -⟩, rfl⟩ := Reader.logs_pure.mp returned
  refine ⟨treeEvents, ?_, ?_⟩
  · rw [← treeNoted]
    have walks : Reader.Walks (.noting data.toArray Log.Event.IsDebug) _
        (Prototype.read header options 0) :=
      Prototype.walks_readWithin False.elim (fun _ => rfl) (fun _ => rfl) options _ 0
    exact (walks middle).orderly.noted
  · have inside : stop ≤ data.length := consumed_le_length succeeded
    have sameCondition : ((data.toArray.size : Int) - stop != 0) =
        (((data.toArray.size : Int) - stop).toNat != 0) := by
      rw [Bool.eq_iff_iff, bne_iff_ne, bne_iff_ne, List.size_toArray]
      omega
    rw [Header.events_of_takes headerTaken, afterHeader, afterTree, afterWarning,
      sameCondition] at joined
    exact joined

theorem shown_decode {data : Bytes} {options : Options} {file : DecodedFile}
    (succeeded : (decode data options).result = .ok file) {console : Log.Console}
    (terse : console.verbose = false) :
    console.shown (decode data options).events = console.shown file.warnings := by
  obtain ⟨treeEvents, treeDebug, noted⟩ := events_of_decode succeeded
  have header : console.shown [.headerRead file.header] = "" :=
    Log.Console.shown_of_isDebug terse (List.forall_mem_singleton.mpr rfl)
  have whole : console.shown [.decoded file.tree.count file.consumed] = "" :=
    Log.Console.shown_of_isDebug terse (List.forall_mem_singleton.mpr rfl)
  have tree := Log.Console.shown_of_isDebug terse treeDebug
  rw [noted, DecodedFile.warnings]
  simp only [Log.Console.shown_append, header, tree, whole, String.append_empty,
    String.empty_append]

namespace Program

open CommandLine (Settings)

variable {compiler : Compiler} {room : Room} {settings : Settings} {store : Store}

/-- All that is noted of a compilation is for debugging. -/
theorem isDebug_of_mem_bytecode {content : Bytes} :
    ∀ event ∈ (bytecode compiler settings content).events, event.IsDebug := by
  rw [bytecode]
  split
  · rw [Compilation.ofSource.eq_def]
    split
    · simp
    · dsimp only
      split
      · simp
      · simp
      · exact List.forall_mem_singleton.mpr rfl
  · simp

/-- The document with its line break is read as one JSON value. -/
theorem ofText_withLineBreak {file : DecodedFile} {text : String}
    (rendered : Renders room settings file text) (json : settings.listing = false) :
    JsonReading.ofText (withLineBreak text) = some file.toJson.reading := by
  obtain ⟨indent, written⟩ : ∃ indent, file.jsonText indent = .ok text := by
    cases rendered with
    | listing wanted _ =>
        rw [json] at wanted
        cases wanted
    | compact _ _ written => exact ⟨_, written⟩
    | indented _ _ _ written => exact ⟨_, written⟩
  obtain ⟨spacing, blank, rfl⟩ := DecodedFile.exists_spacing_of_jsonText written
  have finite := file.tree.isFinite_toJson file.options.instructionObjects
  rw [withLineBreak]
  split
  · exact Json.ofText_render blank finite
  · exact Json.ofText_render_append blank finite "\n" (by simp [JsonReading.isBlank])

theorem run_of_rendered {words : List String} (compiler : Compiler) (terminal : Bool)
    (accepted : CommandLine.parse words = .run settings) (printing : settings.stdout = true)
    (terse : settings.verbose = false) {file : DecodedFile} {text : String}
    (decoded : Decodes compiler settings store file) (rendered : Renders room settings file text) :
    ∃ calls, run compiler room terminal words store =
      ⟨.exit 0, Log.Console.shown ⟨false, terminal⟩ file.warnings ++ withLineBreak text, "", store,
        calls⟩ := by
  obtain ⟨content, data, read, compiled, result⟩ := decoded
  have compilation : Log.Console.lines ⟨false, terminal⟩
      ((bytecode compiler settings content).events.map Log.Event.record) = "" :=
    Log.Console.shown_of_isDebug rfl isDebug_of_mem_bytecode
  have decoding : Log.Console.lines ⟨false, terminal⟩
      ((decode data (options settings)).events.map Log.Event.record) =
        Log.Console.shown ⟨false, terminal⟩ file.warnings :=
    shown_decode result rfl
  have documented := document_eq_ok.mpr rendered
  have result : (decode data (options settings)).result = .ok file := result
  refine ⟨(bytecode compiler settings content).calls, ?_⟩
  simp only [run, accepted, draft, read, compiled, draftBytecode, result, documented, dispatch,
    printing, terse, compilation, decoding, String.empty_append]
  rfl

theorem append_withLineBreak_eq {console : Log.Console} {file : DecodedFile} {text : String} :
    console.shown file.warnings ++ withLineBreak text = withLineBreak text ↔
      file.header.version = Header.supportedVersion ∧ file.trailing = 0 := by
  rw [← DecodedFile.warnings_eq_nil, ← DecodedFile.shown_warnings_eq_empty]
  constructor
  · intro same
    have chars := congrArg String.toList same
    rw [String.toList_append] at chars
    exact String.toList_injective (List.append_left_eq_self.mp chars)
  · intro none
    rw [none, String.empty_append]

/-- A run that prints its document shows the warnings of the file, then the document and nothing
else. Without warnings the output is the document, and is read as one JSON value unless a listing
was asked for. -/
theorem run_prints {words : List String} (compiler : Compiler) (room : Room) (terminal : Bool)
    (store : Store) (accepted : CommandLine.parse words = .run settings)
    (printing : settings.stdout = true) (terse : settings.verbose = false)
    {file : DecodedFile} {text : String} (decoded : Decodes compiler settings store file)
    (rendered : Renders room settings file text) :
    (run compiler room terminal words store).ending = .exit 0 ∧
      (run compiler room terminal words store).stdout =
        Log.Console.shown ⟨false, terminal⟩ file.warnings ++ withLineBreak text ∧
      (run compiler room terminal words store).stderr = "" ∧
      (run compiler room terminal words store).store = store ∧
      ((run compiler room terminal words store).stdout = withLineBreak text ↔
        file.header.version = Header.supportedVersion ∧ file.trailing = 0) ∧
      (settings.listing = false →
        JsonReading.ofText (withLineBreak text) = some file.toJson.reading) := by
  obtain ⟨calls, ran⟩ := run_of_rendered compiler terminal accepted printing terse decoded rendered
  rw [ran]
  exact ⟨rfl, rfl, rfl, rfl, append_withLineBreak_eq, ofText_withLineBreak rendered⟩

def printingSettings : Settings :=
  { stdout := true, path := Path.ofText "t.luac" }

theorem run_prints_bareStore :
    CommandLine.parse ["t.luac", "--stdout"] = .run printingSettings ∧
      (run none .unbounded false ["t.luac", "--stdout"] bareStore).stdout =
        Log.Console.shown ⟨false, false⟩ DecodedFile.bareResult.warnings ++
          withLineBreak (DecodedFile.bareResult.toJson.render .compact) := by
  have named : CommandLine.IsArgument "t.luac" := CommandLine.isArgument_of_plain (by decide)
  obtain ⟨accepted, printing, terse⟩ :=
    CommandLine.parse_of_chooses named (.done { stdout := true })
  have decoded : Decodes none printingSettings bareStore DecodedFile.bareResult :=
    ⟨_, _, rfl, rfl, DecodedFile.decode_bareFile⟩
  have rendered : Renders .unbounded printingSettings DecodedFile.bareResult
      (DecodedFile.bareResult.toJson.render .compact) := .compact rfl rfl rfl
  exact ⟨accepted, (run_prints none _ false bareStore accepted rfl rfl decoded rendered).2.1⟩

/-- The file of `bareStore` with one more byte at its end. -/
def tailedStore : Store := ⟨[(["t.luac"], .file (DecodedFile.bareFile ++ [0]))]⟩

def tailedResult : DecodedFile :=
  { DecodedFile.bareResult with trailing := 1 }

theorem run_tailedStore :
    CommandLine.parse ["t.luac", "--stdout"] = .run printingSettings ∧
      ∃ text, Decodes none printingSettings tailedStore tailedResult ∧
        Renders .unbounded printingSettings tailedResult text ∧
        (run none .unbounded false ["t.luac", "--stdout"] tailedStore).stdout ≠
          withLineBreak text ∧
        JsonReading.ofText (run none .unbounded false ["t.luac", "--stdout"] tailedStore).stdout =
          none := by
  have accepted : CommandLine.parse ["t.luac", "--stdout"] = .run printingSettings := by
    decide +kernel
  have decoded : Decodes none printingSettings tailedStore tailedResult :=
    ⟨_, _, rfl, rfl, decode_append_of_ok DecodedFile.decode_bareFile [0]⟩
  have rendered : Renders .unbounded printingSettings tailedResult
      (tailedResult.toJson.render .compact) := .compact rfl rfl rfl
  obtain ⟨calls, ran⟩ := run_of_rendered none false accepted rfl rfl decoded rendered
  refine ⟨accepted, _, decoded, rendered, ?_, ?_⟩
  · intro same
    rw [ran, append_withLineBreak_eq] at same
    cases same.2
  · rw [ran]
    have warned : Log.Console.shown ⟨false, false⟩ tailedResult.warnings =
        "1 trailing bytes after the main chunk at offset 31\n" := by decide +kernel
    -- The number of bytes left would be a value by itself, but more than white space follows it.
    have token : JsonReading.IsToken ['1'] := ⟨by simp, List.forall_mem_singleton.mpr rfl⟩
    have chars (bound : Nat) (rest : List Char) : JsonReading.value (bound + 1)
        ("1 trailing bytes after the main chunk at offset 31\n".toList ++ rest) =
        some (.integer 1, " trailing bytes after the main chunk at offset 31\n".toList ++ rest) :=
      JsonReading.value_token token rfl (JsonReading.follows_cons _ (by decide)) rfl
    simp only [warned, JsonReading.ofText, String.toList_append, chars, Option.bind_eq_bind,
      Option.bind_some]
    rfl

end Program

end LuaBytecode
