import LuaBytecode.CommandLine.Help
import LuaBytecode.Compilation
import LuaBytecode.Json.Document
import LuaBytecode.Listing
import LuaBytecode.Store.Write

/-!
# The program

A run of the program from its command line to its exit code. What lies between the two accesses to
the file store, reading the input and writing the output, is a pure function of what was read, so
the same steps serve any store. The compiler and the memory of the machine are parameters.
-/

set_option autoImplicit false

namespace LuaBytecode.Program

/-- A failure that no exit code stands for. -/
inductive Escape where
  | load (failure : StoreFailure)
  | numeral (failure : NumeralFailure)
  | indent (failure : Json.IndentFailure)
  | memory
  | voidIndent
  | path (failure : PathFailure)
  | voidOutput
  | write (failure : WriteFailure)
  deriving DecidableEq, Repr

def Escape.message : Escape → String
  | .load failure => failure.message
  | .numeral failure => failure.message
  | .indent failure => failure.message
  | .memory => ""
  | .voidIndent => "can't multiply sequence by non-int of type 'list'"
  | .path failure => failure.message
  | .voidOutput => "expected str, bytes or os.PathLike object, not list"
  | .write failure => failure.message

/-- Whether the machine has the memory for the text of a file at an indent. -/
abbrev Room := DecodedFile → Int → Bool

def Room.unbounded : Room := fun _ _ => true

inductive Ending where
  | exit (code : Nat)
  | escaped (failure : Escape)
  deriving DecidableEq, Repr

def successCode : Nat := 0

/-- The input could not be compiled or decoded. -/
def formatCode : Nat := 1

/-- A file could not be read or written, or the command line was refused. -/
def systemCode : Nat := 2

def record (level : Log.Level) (text : String) : Log.Record :=
  ⟨level, "luadistil.main", text⟩

/-- What is left to do after the input has been dealt with. -/
inductive Remainder where
  | finished (ending : Ending)
  | pending (output : Path) (text : String)
  deriving DecidableEq, Repr

/-- The work on an input: what it printed, which sources it handed to the compiler, and what is left
to do. -/
structure Draft where
  printed : String
  calls : List (Bytes × Bytes)
  remainder : Remainder

def options (settings : CommandLine.Settings) : Options :=
  ⟨settings.stripDebugging, settings.instructionObjects⟩

def document (room : Room) (settings : CommandLine.Settings) (result : DecodedFile) :
    Except Escape String :=
  if settings.listing then result.listing.mapError .numeral
  else
    match settings.indent with
    | .unset => (result.jsonText none).mapError .indent
    | .void => .error .voidIndent
    | .value width =>
      if Json.isIndent width && !room result width then .error .memory
      else (result.jsonText (some width)).mapError .indent

def withLineBreak (text : String) : String :=
  if text.toList.getLast? = some '\n' then text else text ++ "\n"

def outputPath (settings : CommandLine.Settings) : Except Escape Path :=
  match settings.output with
  | .value path => .ok path
  | .void => .error .voidOutput
  | .unset =>
    (settings.path.outputFor (if settings.listing then ".txt" else ".json")).mapError .path

def bytecode (compiler : Compiler) (settings : CommandLine.Settings) (content : Bytes) :
    Compilation :=
  if settings.compile then
    Compilation.ofSource compiler (.bytes content) (.text ("@" ++ settings.path.name))
  else ⟨.ok content, [], []⟩

/-- What is left to do with a document, and what is printed of it. -/
def dispatch (settings : CommandLine.Settings) (text : String) : String × Remainder :=
  if settings.stdout then (withLineBreak text, .finished (.exit successCode))
  else
    match outputPath settings with
    | .error failure => ("", .finished (.escaped failure))
    | .ok output => ("", .pending output text)

def draftBytecode (room : Room) (console : Log.Console) (settings : CommandLine.Settings)
    (data : Bytes) : String × Remainder :=
  let run := decode data (options settings)
  let noted := console.lines (run.events.map Log.Event.record)
  match run.result with
  | .error fault =>
    let line := console.line <| record Log.Level.error
      s!"Unable to decode {settings.path.text}: {fault.message}"
    (noted ++ line, .finished (.exit formatCode))
  | .ok result =>
    match document room settings result with
    | .error failure => (noted, .finished (.escaped failure))
    | .ok text =>
      let (printed, remainder) := dispatch settings text
      (noted ++ printed, remainder)

def draft (compiler : Compiler) (room : Room) (console : Log.Console)
    (settings : CommandLine.Settings) (loaded : Except StoreFailure Bytes) : Draft :=
  let path := settings.path.text
  match loaded with
  | .error .zeroInPath => ⟨"", [], .finished (.escaped (.load .zeroInPath))⟩
  | .error (.system failure) =>
    let line := console.line <| record Log.Level.error
      s!"Unable to read {path}: {failure.message}"
    ⟨line, [], .finished (.exit systemCode)⟩
  | .ok content =>
    let compilation := bytecode compiler settings content
    let noted := console.lines (compilation.events.map Log.Event.record)
    match compilation.result with
    | .error failure =>
      let line := console.line <| record Log.Level.error
        s!"Unable to compile {path}: {failure.report.message}"
      ⟨noted ++ line, compilation.calls, .finished (.exit formatCode)⟩
    | .ok data =>
      let (printed, remainder) := draftBytecode room console settings data
      ⟨noted ++ printed, compilation.calls, remainder⟩

/-- What is printed after an attempt to write the output, and how the run ends. -/
def conclude (console : Log.Console) (output : Path) (written : Except WriteFailure Unit) :
    String × Ending :=
  match written with
  | .error (.store (.system failure)) =>
    (console.line <| record Log.Level.error
      s!"Unable to write {output.text}: {failure.message}", .exit systemCode)
  | .error failure => ("", .escaped (.write failure))
  | .ok _ =>
    (console.line <| record Log.Level.info s!"File written: {output.text}", .exit successCode)

structure Outcome where
  ending : Ending
  stdout : String
  stderr : String
  store : Store
  calls : List (Bytes × Bytes)

/-- Runs the program with a compiler and the memory there is, on a terminal or not, from the words
of its command line and the files it finds. -/
def run (compiler : Compiler) (room : Room) (terminal : Bool) (words : List String)
    (store : Store) : Outcome :=
  match CommandLine.parse words with
  | .help => ⟨.exit successCode, CommandLine.help, "", store, []⟩
  | .refused refusal => ⟨.exit systemCode, "", CommandLine.refusalText refusal, store, []⟩
  | .run settings =>
    let console : Log.Console := ⟨settings.verbose, terminal⟩
    let work := draft compiler room console settings (store.read settings.path.text)
    match work.remainder with
    | .finished ending => ⟨ending, work.printed, "", store, work.calls⟩
    | .pending output text =>
      let writing := Store.write output.text text "utf-8" store
      let (printed, ending) := conclude console output writing.result
      ⟨ending, work.printed ++ printed, "", writing.store, work.calls⟩

/-- Decodes a file of a store under options given as settings. The file is read before the settings
are looked at. -/
def decodeFile (store : Store) (path : Path) (settings : List (String × Json)) :
    Except StoreFailure (Noted DecodeFailure DecodedFile) := do
  let data ← store.read path.text
  let noted := decodeWithSettings data settings
  return ⟨noted.result, .fileLoaded data.length path.text :: noted.events⟩

end LuaBytecode.Program
