import LuaBytecode.Store.Basic
import LuaBytecode.Text.Encoding.Basic

/-!
# Writing files whole or not at all

A text is written to a new temporary file in the directory of its target, which is then moved onto
the target in one step. Work on a store is recorded with every state the store passes through, so
that what others can see in between is part of the answer.
-/

set_option autoImplicit false

namespace LuaBytecode

/-- The outcome of some work on a store, with the store after the work, whether it succeeded or not,
and the stores after each change, in order. -/
structure StoreRun (ε α : Type) where
  result : Except ε α
  store : Store
  passed : List Store

def StoreWork (ε α : Type) : Type :=
  Store → StoreRun ε α

namespace StoreWork

variable {ε α β : Type}

protected def pure (value : α) : StoreWork ε α := fun store =>
  ⟨.ok value, store, []⟩

/-- Does one piece of work and then, unless that failed, what follows from it. -/
protected def bind (first : StoreWork ε α) (next : α → StoreWork ε β) : StoreWork ε β :=
  fun store =>
    let before := first store
    match before.result with
    | .error failure => ⟨.error failure, before.store, before.passed⟩
    | .ok value =>
      let after := next value before.store
      ⟨after.result, after.store, before.passed ++ after.passed⟩

instance : Monad (StoreWork ε) where
  pure := StoreWork.pure
  bind := StoreWork.bind

/-- Gives what the store says, or fails with the cause it gives. -/
def ask (question : Store → Except ε α) : StoreWork ε α := fun store =>
  ⟨question store, store, []⟩

def change (step : Store → Store) : StoreWork ε Unit := fun store =>
  ⟨.ok (), step store, [step store]⟩

/-- Does some work and takes a failure that is excused, in the store it leaves, for a success. -/
def excusing (work : StoreWork ε Unit) (excused : ε → Store → Bool) : StoreWork ε Unit :=
  fun store =>
    let run := work store
    match run.result with
    | .ok _ => run
    | .error failure =>
      if excused failure run.store then ⟨.ok (), run.store, run.passed⟩ else run

def mapFailure {δ : Type} (work : StoreWork ε α) (seen : ε → δ) : StoreWork δ α := fun store =>
  let run := work store
  ⟨run.result.mapError seen, run.store, run.passed⟩

/-- Does some work and, if it fails, changes the store in one more step. -/
def orUndo (work : StoreWork ε α) (undo : Store → Store) : StoreWork ε α := fun store =>
  let run := work store
  match run.result with
  | .ok _ => run
  | .error failure =>
    ⟨.error failure, undo run.store, run.passed ++ [undo run.store]⟩

end StoreWork

inductive WriteFailure where
  | store (failure : StoreFailure)
  | encoding (failure : Text.EncodingFailure)
  deriving DecidableEq, Repr

def WriteFailure.message : WriteFailure → String
  | .store failure => failure.message
  | .encoding failure => failure.message

namespace Store

/-! ## Directories -/

/-- A path cut after its last slash: what leads up to it, without slashes at the end unless it has
nothing else, and what follows. -/
def splitLast (path : List Char) : List Char × List Char :=
  let tail := (path.reverse.takeWhile (· != '/')).reverse
  let head := path.take (path.length - tail.length)
  let bare := (head.reverse.dropWhile (· == '/')).reverse
  (if bare = [] then head else bare, tail)

def makeDirectory (path : String) : StoreWork StoreFailure Unit := do
  let location ← StoreWork.ask fun store =>
    handingOver path (fun cause => ⟨cause, path, none⟩) (store.vacancy path)
  StoreWork.change fun store => store.insert location .directory

/-- Makes one directory, unless the path leads to one already. -/
def ensureDirectory (path : String) : StoreWork StoreFailure Unit :=
  (makeDirectory path).excusing fun _ store => store.hasDirectory path

/-- Makes a directory and those above it that are missing. The first argument bounds the number of
parts of the path. -/
def ensureDirectories : (bound : Nat) → (path : List Char) → StoreWork StoreFailure Unit
  | 0, path => ensureDirectory (String.ofList path)
  | bound + 1, path => fun store =>
    let (above, last) :=
      match splitLast path with
      | (head, []) => splitLast head
      | split => split
    if above = [] ∨ last = [] ∨ store.hasPath (String.ofList above) then
      ensureDirectory (String.ofList path) store
    else
      (do
        (ensureDirectories bound above).excusing fun failure _ => failure.isAlreadyExists
        if last = ['.'] then pure () else ensureDirectory (String.ofList path)) store

/-! ## Texts -/

def temporaryName (mark : String) : String :=
  ".tmp-" ++ mark ++ ".partial"

/-- A name for a temporary file that nothing in the directory has. One of the first names tried is
free, because there are more of them than there are entries in the store. -/
def freshName (store : Store) (directory : Location) : String :=
  let names := (List.range (store.entries.length + 1)).map fun length =>
    temporaryName (String.ofList (List.replicate length 'x'))
  (names.find? fun name => (store.find? (directory ++ [name])).isNone).getD (temporaryName "")

/-- The parts of a path after dots are taken out: a single dot means nothing, and two dots take the
part before them away. -/
def collapse : List String → List String → List String
  | done, [] => done.reverse
  | done, part :: rest =>
    if part = "." then collapse done rest
    else if part = ".." then
      match done with
      | [] => collapse [part] rest
      | previous :: before =>
        if previous = ".." then collapse (part :: done) rest else collapse before rest
    else collapse (part :: done) rest

/-- The path of a temporary file with the given mark, in the directory that a path leads to. -/
def temporaryPath (directory mark : String) : String :=
  let path := Path.ofText directory
  (Path.mk path.root (collapse [] path.parts ++ [temporaryName mark])).text

/-- How a message shows a temporary file. Its mark has no meaning and is shown as a star. -/
def temporaryLabel (directory : String) : String :=
  temporaryPath directory "*"

def markLength : Nat := 8

/-- The location at which a temporary file is made in the directory that a path leads to. -/
def temporaryVacancy (store : Store) (directory : String) : Except SystemCause Location := do
  let path := temporaryPath directory (String.ofList (List.replicate markLength 'x'))
  if maxPath < path.utf8ByteSize then
    .error .nameTooLong
  else
    let location ← store.locateDirectory directory
    return location ++ [store.freshName location]

def parentOf (target : String) : String :=
  let above := (splitLast target.toList).1
  if above = [] then "." else String.ofList above

/-- The work on a temporary file: it is filled, then moved to where `target` leads. -/
def fillAndMove (temporary : Location) (label target : String)
    (content : Except WriteFailure Bytes) : StoreWork WriteFailure Unit := do
  let bytes ← StoreWork.ask fun _ => content
  StoreWork.change fun store => store.insert temporary (.file bytes)
  let destination ← StoreWork.ask fun store =>
    (handingOver target (fun cause => ⟨cause, label, some target⟩)
      (store.destination target)).mapError .store
  StoreWork.change fun store => (store.erase temporary).insert destination (.file bytes)

/-- Writes a text to the file that `target` leads to. Missing directories are made first and stay
even if the rest fails; the temporary file never stays. -/
def write (target text encodingName : String) : StoreWork WriteFailure Unit := do
  let directory := parentOf target
  (ensureDirectories directory.length directory.toList).mapFailure .store
  let temporary ← StoreWork.ask fun store =>
    (store.temporaryVacancy directory).mapError fun cause =>
      .store (.system ⟨cause, temporaryLabel directory, none⟩)
  StoreWork.change fun store => store.insert temporary (.file [])
  StoreWork.orUndo
    (fillAndMove temporary (temporaryLabel directory) target
      ((Text.encodeAs encodingName text).mapError .encoding))
    (fun store => store.erase temporary)

end Store

end LuaBytecode
