import LuaBytecode.Program

/-!
# The command

The program on the files of the machine. All decisions are those of the pure program: here the input
is loaded, texts are printed, and the output is written to a temporary file that is then moved onto
its target.
-/

set_option autoImplicit false

namespace LuaBytecode.Command

/-- The number of a cause, which some calls of the system report negated. -/
def numberOf (code : UInt32) : Nat :=
  code.toInt32.toInt.natAbs

def causeOf : IO.Error → SystemCause
  | .alreadyExists _ code details | .interrupted _ code details
  | .noFileOrDirectory _ code details | .invalidArgument _ code details
  | .permissionDenied _ code details | .resourceExhausted _ code details
  | .inappropriateType _ code details | .noSuchThing _ code details
  | .otherError code details | .resourceBusy code details | .resourceVanished code details
  | .unsupportedOperation code details | .hardwareFault code details
  | .unsatisfiedConstraints code details | .illegalOperation code details
  | .protocolError code details | .timeExpired code details => .ofNumber (numberOf code) details
  | .unexpectedEof => .other 0 "Unexpected end of file"
  | .userError text => .other 0 text

/-- Does some work that involves a path and perhaps a target to move it to. -/
def attempt {α : Type} (path : String) (target : Option String) (work : IO α) :
    EIO SystemFailure α :=
  work.toEIO fun error => ⟨causeOf error, path, target⟩

def load (path : String) : EIO SystemFailure Bytes := do
  let content ← attempt path none (IO.FS.readBinFile path)
  return content.data.toList

/-- Writes a file whole or not at all. Missing directories are made first. -/
def store (target : String) (content : Bytes) : EIO SystemFailure Unit := do
  let directory := Store.parentOf target
  attempt directory none (IO.FS.createDirAll directory)
  let mark ← IO.rand 0 0x4000000000000000
  let temporary := directory ++ "/" ++ Store.temporaryName (toString mark)
  let handle ← attempt temporary none (IO.FS.Handle.mk temporary .writeNew)
  try
    attempt temporary none do
      handle.write ⟨content.toArray⟩
      handle.flush
    attempt temporary (some target) (IO.FS.rename temporary target)
  catch failure =>
    let _ ← (IO.FS.removeFile temporary).toBaseIO
    throw failure

def finish : Program.Ending → IO UInt32
  | .exit code => return code.toUInt32
  | .escaped failure => do
    (← IO.getStderr).putStrLn failure.message
    return Program.formatCode.toUInt32

/-- Runs the program with the given settings. No compiler comes with it, and it makes any text that
it is asked for. -/
def runWith (settings : CommandLine.Settings) : IO UInt32 := do
  let stdout ← IO.getStdout
  let console : Log.Console := ⟨settings.verbose, ← stdout.isTty⟩
  let loaded ← (load settings.path.text).toBaseIO
  let work := Program.draft none .unbounded console settings (loaded.mapError .system)
  stdout.putStr work.printed
  match work.remainder with
  | .finished ending => finish ending
  | .pending output text =>
    let written ← (store output.text (Bytes.ofText text)).toBaseIO
    let (printed, ending) :=
      Program.conclude console output (written.mapError fun failure => .store (.system failure))
    stdout.putStr printed
    finish ending

end LuaBytecode.Command

def main (words : List String) : IO UInt32 := do
  match LuaBytecode.CommandLine.parse words with
  | .help =>
    (← IO.getStdout).putStr LuaBytecode.CommandLine.help
    return LuaBytecode.Program.successCode.toUInt32
  | .refused refusal =>
    (← IO.getStderr).putStr (LuaBytecode.CommandLine.refusalText refusal)
    return LuaBytecode.Program.systemCode.toUInt32
  | .run settings => LuaBytecode.Command.runWith settings
