import LuaBytecode.Text.Quoted

/-!
# Paths

A path is a root, or none, and a list of parts. Repeated slashes and parts that are a single dot
mean nothing and are dropped, while two dots stay. The default output path of an input lies beside
it.
-/

set_option autoImplicit false

namespace LuaBytecode

/-- Where a path starts. Exactly two slashes at the start are not the same as one. -/
inductive PathRoot where
  | none
  | slash
  | doubleSlash
  deriving DecidableEq, Repr

def PathRoot.text : PathRoot → String
  | .none => ""
  | .slash => "/"
  | .doubleSlash => "//"

structure Path where
  root : PathRoot
  parts : List String
  deriving DecidableEq, Repr

inductive PathFailure where
  | emptyName (path : Path)
  | invalidSuffix (suffix : String)
  | invalidName (name : String)
  deriving DecidableEq, Repr

namespace Path

/-- The pieces between slashes, of which there is always one more than there are slashes. -/
def pieces : List Char → List (List Char)
  | [] => [[]]
  | char :: rest =>
    if char = '/' then [] :: pieces rest
    else
      match pieces rest with
      | [] => [[char]]
      | first :: others => (char :: first) :: others

def realPieces (chars : List Char) : List (List Char) :=
  (pieces chars).filter fun piece => piece != [] && piece != ['.']

def rootOf : List Char → PathRoot
  | '/' :: '/' :: '/' :: _ => .slash
  | '/' :: '/' :: _ => .doubleSlash
  | '/' :: _ => .slash
  | _ => .none

def ofText (text : String) : Path :=
  ⟨rootOf text.toList, (realPieces text.toList).map String.ofList⟩

/-- The path as it is written; the empty path is a single dot. -/
def text (path : Path) : String :=
  let written := path.root.text ++ String.intercalate "/" path.parts
  if written = "" then "." else written

/-- The last part, or nothing at all for a path without parts. -/
def name (path : Path) : String :=
  path.parts.getLast?.getD ""

/-- A name split before its last dot. The dot must be neither the first nor the last character of
the name. -/
def splitSuffix? (name : List Char) : Option (List Char × List Char) :=
  let reversed := name.reverse
  let ending := reversed.takeWhile (· != '.')
  match reversed.dropWhile (· != '.') with
  | _ :: stem =>
    if ending = [] ∨ stem = [] then none else some (stem.reverse, '.' :: ending.reverse)
  | [] => none

/-- The name's suffix with its dot, or nothing. -/
def suffix (path : Path) : String :=
  match splitSuffix? path.name.toList with
  | some (_, ending) => String.ofList ending
  | none => ""

def replaceName (path : Path) (name : String) : Path :=
  { path with parts := path.parts.dropLast ++ [name] }

def isName (name : List Char) : Bool :=
  name.head? != some '/' && name.getLast? != some '/' && (realPieces name).length == 1

def withName (path : Path) (name : String) : Except PathFailure Path :=
  if path.name = "" then .error (.emptyName path)
  else if isName name.toList then .ok (path.replaceName name)
  else .error (.invalidName name)

/-- Whether a text can stand as the suffix of a name: nothing, or a dot and more, without
slashes. -/
def isSuffix (suffix : List Char) : Bool :=
  !suffix.contains '/' && (suffix == [] || (suffix.head? == some '.' && suffix != ['.']))

/-- The path with the suffix of its name replaced, or added where there is none. -/
def withSuffix (path : Path) (suffix : String) : Except PathFailure Path :=
  if !isSuffix suffix.toList then .error (.invalidSuffix suffix)
  else if path.name = "" then .error (.emptyName path)
  else
    let stem := match splitSuffix? path.name.toList with
      | some (stem, _) => String.ofList stem
      | none => path.name
    .ok (path.replaceName (stem ++ suffix))

def bytecodeSuffix : String := ".luac"

/-- Where the output for an input goes: the suffix of a compiled file is replaced, and any other
name has the suffix added. -/
def outputFor (path : Path) (suffix : String) : Except PathFailure Path :=
  if path.suffix = bytecodeSuffix then path.withSuffix suffix
  else path.withName (path.name ++ suffix)

end Path

def PathFailure.message : PathFailure → String
  | .emptyName path => s!"PosixPath({Text.quoted path.text}) has an empty name"
  | .invalidSuffix suffix => s!"Invalid suffix {Text.quoted suffix}"
  | .invalidName name => s!"Invalid name {Text.quoted name}"

end LuaBytecode
