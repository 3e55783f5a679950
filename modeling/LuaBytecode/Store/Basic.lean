import LuaBytecode.Bytes
import LuaBytecode.Path

/-!
# File store

The files and directories that the program can reach, and the operations of the system on them that
it uses. A path given to the system is walked part by part, so each failure has the cause that the
first obstacle on the way gives it.
-/

set_option autoImplicit false

namespace LuaBytecode

/-- The names from the working directory down to a file or directory. What is not below the working
directory is reached from a directory above it, where the names start with as many double dots as
that is levels up, or from the root, where they start with a slash. -/
abbrev Location := List String

namespace Location

def root : Location := ["/"]

/-- The location one level up. Nothing is above the root. -/
def parent (location : Location) : Location :=
  match location.getLast? with
  | none => [".."]
  | some last =>
    if last = ".." then location ++ [".."]
    else if last = "/" then location
    else location.dropLast

/-- Whether a location is the working directory, a directory above it, or the root. These are always
there. -/
def isStanding (location : Location) : Bool :=
  location == root || location.all (· == "..")

/-- Whether a location is the working directory or lies below it. -/
def isInside (location : Location) : Bool :=
  location.head? != some ".." && location.head? != some "/"

end Location

inductive Entry where
  | directory
  | file (content : Bytes)
  deriving DecidableEq, Repr

inductive SystemCause where
  | notFound
  | busy
  | alreadyExists
  | notDirectory
  | isDirectory
  | nameTooLong
  | other (number : Nat) (text : String)
  deriving DecidableEq, Repr

namespace SystemCause

def number : SystemCause → Nat
  | .notFound => 2
  | .busy => 16
  | .alreadyExists => 17
  | .notDirectory => 20
  | .isDirectory => 21
  | .nameTooLong => 36
  | .other number _ => number

def text : SystemCause → String
  | .notFound => "No such file or directory"
  | .busy => "Device or resource busy"
  | .alreadyExists => "File exists"
  | .notDirectory => "Not a directory"
  | .isDirectory => "Is a directory"
  | .nameTooLong => "File name too long"
  | .other _ text => text

/-- The causes that the operations below can meet. -/
def familiar : List SystemCause :=
  [.notFound, .busy, .alreadyExists, .notDirectory, .isDirectory, .nameTooLong]

/-- The cause with the given number, where the system words it as given. -/
def ofNumber (number : Nat) (text : String) : SystemCause :=
  (familiar.find? fun cause => cause.number == number).getD (.other number text)

end SystemCause

/-- A refused operation: the path it was asked for and, if it was to move a file, the target. -/
structure SystemFailure where
  cause : SystemCause
  path : String
  target : Option String
  deriving DecidableEq, Repr

def SystemFailure.message (failure : SystemFailure) : String :=
  let cause := s!"[Errno {failure.cause.number}] {failure.cause.text}: {Text.quoted failure.path}"
  match failure.target with
  | none => cause
  | some target => s!"{cause} -> {Text.quoted target}"

inductive StoreFailure where
  | system (failure : SystemFailure)
  -- The path holds the zero character, so it was not even handed to the system.
  | zeroInPath
  deriving DecidableEq, Repr

def StoreFailure.message : StoreFailure → String
  | .system failure => failure.message
  | .zeroInPath => "embedded null byte"

def StoreFailure.isAlreadyExists : StoreFailure → Bool
  | .system failure => failure.cause == .alreadyExists
  | .zeroInPath => false

/-- The files and directories that the program can reach, apart from those that are always there. -/
structure Store where
  entries : List (Location × Entry)
  deriving DecidableEq, Repr

namespace Store

def find? (store : Store) (location : Location) : Option Entry :=
  if location.isStanding then some .directory else store.entries.lookup location

def inside (store : Store) : List (Location × Entry) :=
  store.entries.filter fun entry => entry.1.isInside

def erase (store : Store) (location : Location) : Store :=
  ⟨store.entries.filter fun entry => entry.1 != location⟩

def insert (store : Store) (location : Location) (entry : Entry) : Store :=
  ⟨(location, entry) :: (store.erase location).entries⟩

/-- The store with a directory at a location, and directories at all locations above it. -/
def withDirectories (store : Store) (location : Location) : Store :=
  (List.range location.length).foldl
    (fun (done : Store) index =>
      let above := location.take (index + 1)
      if done.find? above = none then done.insert above .directory else done)
    store

def withFile (store : Store) (location : Location) (content : Bytes) : Store :=
  (store.withDirectories location.dropLast).insert location (.file content)

/-! ## Walking paths -/

/-- The last step of a path, which an operation treats in its own way. -/
inductive LastStep where
  -- The path ends at the directory reached, or at the one above it.
  | here
  | above
  | name (name : String)
  deriving DecidableEq, Repr

structure Walked where
  directory : Location
  last : LastStep
  slashed : Bool
  deriving DecidableEq, Repr

/-- The longest name of a single file, in bytes. -/
def maxName : Nat := 255

/-- The longest path that can be walked, in bytes. -/
def maxPath : Nat := 4095

/-- The directory that one step leads to. -/
def enter (store : Store) (directory : Location) (step : String) :
    Except SystemCause Location :=
  if step = "." then .ok directory
  else if step = ".." then .ok directory.parent
  else if maxName < step.utf8ByteSize then .error .nameTooLong
  else
    match store.find? (directory ++ [step]) with
    | none => .error .notFound
    | some (.file _) => .error .notDirectory
    | some .directory => .ok (directory ++ [step])

def enterAll (store : Store) : Location → List String → Except SystemCause Location
  | directory, [] => .ok directory
  | directory, step :: rest => do
    let next ← store.enter directory step
    store.enterAll next rest

def walk (store : Store) (path : String) : Except SystemCause Walked := do
  if path = "" then
    .error .notFound
  else if maxPath < path.utf8ByteSize then
    .error .nameTooLong
  else
    let start : Location := if path.toList.head? = some '/' then .root else []
    let steps := ((Path.pieces path.toList).filter (· != [])).map String.ofList
    match steps.getLast? with
    | none => return ⟨start, .here, false⟩
    | some last =>
      let directory ← store.enterAll start steps.dropLast
      let step : LastStep :=
        if last = "." then .here else if last = ".." then .above else .name last
      return ⟨directory, step, path.toList.getLast? == some '/'⟩

def locate (store : Store) (path : String) : Except SystemCause (Location × Entry) := do
  let walked ← store.walk path
  match walked.last with
  | .here => return (walked.directory, .directory)
  | .above => return (walked.directory.parent, .directory)
  | .name name =>
    if maxName < name.utf8ByteSize then
      .error .nameTooLong
    else
      let location := walked.directory ++ [name]
      match store.find? location with
      | none => .error .notFound
      | some .directory => return (location, .directory)
      | some (.file content) =>
        if walked.slashed then .error .notDirectory else return (location, .file content)

def hasPath (store : Store) (path : String) : Bool :=
  match store.locate path with
  | .ok _ => true
  | .error _ => false

def locateDirectory (store : Store) (path : String) : Except SystemCause Location := do
  match ← store.locate path with
  | (location, .directory) => return location
  | (_, .file _) => .error .notDirectory

def hasDirectory (store : Store) (path : String) : Bool :=
  (store.locateDirectory path).isOk

/-- The answer of the system about a path, if the path can be handed to it. -/
def handingOver {α : Type} (path : String) (failure : SystemCause → SystemFailure)
    (answer : Except SystemCause α) : Except StoreFailure α :=
  if path.toList.contains '\x00' then .error .zeroInPath
  else answer.mapError fun cause => .system (failure cause)

def read (store : Store) (path : String) : Except StoreFailure Bytes :=
  handingOver path (fun cause => ⟨cause, path, none⟩) <|
    match store.locate path with
    | .ok (_, .file content) => .ok content
    | .ok (_, .directory) => .error .isDirectory
    | .error cause => .error cause

/-- The location at which a path would make a new entry, unless there is one already. -/
def vacancy (store : Store) (path : String) : Except SystemCause Location := do
  let walked ← store.walk path
  match walked.last with
  | .here | .above => .error .alreadyExists
  | .name name =>
    if maxName < name.utf8ByteSize then
      .error .nameTooLong
    else
      let location := walked.directory ++ [name]
      match store.find? location with
      | some _ => .error .alreadyExists
      | none => return location

/-- The location at which a path would put a moved file, in place of any other file. -/
def destination (store : Store) (path : String) : Except SystemCause Location := do
  let walked ← store.walk path
  match walked.last with
  | .here | .above => .error .busy
  | .name name =>
    if maxName < name.utf8ByteSize then
      .error .nameTooLong
    else if walked.slashed then
      .error .notDirectory
    else
      let location := walked.directory ++ [name]
      match store.find? location with
      | some .directory => .error .isDirectory
      | _ => return location

end Store

end LuaBytecode
