import LuaBytecode.Path
import LuaBytecode.Text.Numeral

/-!
# Command line

The words of a command line, sorted into options and arguments, and the settings they stand for.
Long options may be shortened as long as they stay unambiguous, short ones may be joined, and a
value may be attached to its option. All words are sorted before any is acted on, so an ambiguous
option is reported before anything else.

Releases of the option parser do not sort all words alike. Words such as `-vx`, `-hx`,
`--output=--`, `--indent=--`, `-v=v` and `-vo=a` are sorted here as its releases before 3.11.9 and
3.12.3 did.
-/

set_option autoImplicit false

namespace LuaBytecode.CommandLine

inductive Flag where
  | help
  | output
  | stripDebugging
  | instructionObjects
  | listing
  | indent
  | stdout
  | compile
  | verbose
  deriving DecidableEq, Repr

namespace Flag

def all : List Flag :=
  [.help, .output, .stripDebugging, .instructionObjects, .listing, .indent, .stdout, .compile,
    .verbose]

/-- The names of an option, the short one first. -/
def names : Flag → List String
  | .help => ["-h", "--help"]
  | .output => ["-o", "--output"]
  | .stripDebugging => ["--strip-debugging"]
  | .instructionObjects => ["--instruction-objects"]
  | .listing => ["--listing"]
  | .indent => ["--indent"]
  | .stdout => ["--stdout"]
  | .compile => ["--compile"]
  | .verbose => ["-v", "--verbose"]

def takesValue : Flag → Bool
  | .output | .indent => true
  | _ => false

def label (flag : Flag) : String :=
  String.intercalate "/" flag.names

def table : List (String × Flag) :=
  all.flatMap fun flag => flag.names.map fun name => (name, flag)

def ofName? (name : String) : Option Flag :=
  table.lookup name

end Flag

/-- What a command line says about an option that takes a value. -/
inductive Given (α : Type) where
  | unset
  -- The separator of options and arguments is attached to the option in place of a value.
  | void
  | value (value : α)
  deriving DecidableEq, Repr

structure Choices where
  output : Given Path := .unset
  stripDebugging : Bool := false
  instructionObjects : Bool := false
  listing : Bool := false
  indent : Given Int := .unset
  stdout : Bool := false
  compile : Bool := false
  verbose : Bool := false
  deriving DecidableEq, Repr

structure Settings extends Choices where
  path : Path
  deriving DecidableEq, Repr

inductive Refusal where
  | ambiguous (word : String) (names : List String)
  | missingValue (flag : Flag)
  | ignoredValue (flag : Flag) (value : String)
  | invalidInteger (flag : Flag) (value : String)
  | missingPath
  | unrecognized (words : List String)
  deriving DecidableEq, Repr

def Refusal.message : Refusal → String
  | .ambiguous word names =>
    let listed := String.intercalate ", " names
    s!"ambiguous option: {word} could match {listed}"
  | .missingValue flag => s!"argument {flag.label}: expected one argument"
  | .ignoredValue flag value =>
    s!"argument {flag.label}: ignored explicit argument {Text.quoted value}"
  | .invalidInteger flag value =>
    s!"argument {flag.label}: invalid int value: {Text.quoted value}"
  | .missingPath => "the following arguments are required: path"
  | .unrecognized words =>
    let listed := String.intercalate " " words
    s!"unrecognized arguments: {listed}"

/-! ## Sorting words -/

def separatorWord : String := "--"

inductive Token where
  -- An option under its full or shortened long name, with a value attached by an equals sign.
  | long (flag : Flag) (attached : Option String)
  -- An option under its short name, with all that follows the name in the same word. An equals sign
  -- right after the name has been taken out, and leaves `some` even if nothing follows it.
  | short (flag : Flag) (attached : Option String)
  | unknown (word : String)
  | separator
  | argument (word : String)
  deriving DecidableEq, Repr

/-- A word cut at its first equals sign, if it has one. -/
def splitEquals (word : List Char) : List Char × Option (List Char) :=
  match word.dropWhile (· != '=') with
  | [] => (word, none)
  | _ :: value => (word.takeWhile (· != '='), some value)

def allDigits (chars : List Char) : Bool :=
  chars.all fun char => (Text.digitValue? char).isSome

/-- Whether a word is a negative number, whole or with digits after a point. A line break may follow
it. -/
def isNegativeNumber (word : List Char) : Bool :=
  match word with
  | '-' :: rest =>
    let number := if rest.getLast? = some '\n' then rest.dropLast else rest
    let whole := number.takeWhile (· != '.')
    match number.dropWhile (· != '.') with
    | [] => number != [] && allDigits number
    | _ :: decimals => allDigits whole && decimals != [] && allDigits decimals
  | _ => false

def named (name : List Char) (flag : Flag) (attached : Option (List Char)) : Token :=
  let value := attached.map String.ofList
  if name.length = 2 then .short flag value else .long flag value

/-- The options that a word could be short for, each with the name it has there. -/
def completions (word : List Char) : List (String × Token) :=
  match word with
  | '-' :: '-' :: _ =>
    let (start, attached) := splitEquals word
    Flag.table.filterMap fun (name, flag) =>
      if start.isPrefixOf name.toList then some (name, named name.toList flag attached) else none
  | _ =>
    let start := word.take 2
    Flag.table.filterMap fun (name, flag) =>
      if name.toList = start then some (name, named start flag (some (word.drop 2))) else none

/-- The token of a word that starts with a hyphen and is not the separator. -/
def sortHyphened (word : String) : Except Refusal Token :=
  let chars := word.toList
  match Flag.ofName? word with
  | some flag => .ok (named chars flag none)
  | none =>
    if chars.length = 1 then .ok (.argument word)
    else
      let (name, attached) := splitEquals chars
      match attached, Flag.ofName? (String.ofList name) with
      | some value, some flag => .ok (named name flag (some value))
      | _, _ =>
        match completions chars with
        | [(_, token)] => .ok token
        | [] =>
          if isNegativeNumber chars || chars.contains ' ' then .ok (.argument word)
          else .ok (.unknown word)
        | several => .error (.ambiguous word (several.map (·.1)))

def sort : List String → Except Refusal (List Token)
  | [] => .ok []
  | word :: rest =>
    if word = separatorWord then .ok (.separator :: rest.map .argument)
    else do
      let token ← if word.toList.head? = some '-' then sortHyphened word else .ok (.argument word)
      let others ← sort rest
      return token :: others

/-! ## Acting on tokens -/

structure Action where
  flag : Flag
  value : Option String
  deriving DecidableEq, Repr

/-- What the word of an option asks for: its actions, and the option that still wants the next word
as its value. -/
structure Demand where
  actions : List Action
  wanting : Option Flag
  deriving DecidableEq, Repr

def detached (flag : Flag) : Demand :=
  if flag.takesValue then ⟨[], some flag⟩ else ⟨[⟨flag, none⟩], none⟩

def attachedValue (flag : Flag) (value : String) : Except Refusal Demand :=
  if flag.takesValue then .ok ⟨[⟨flag, some value⟩], none⟩
  else .error (.ignoredValue flag value)

/-- The demand of a short option and the characters that follow its name in the same word: the
option's value, or more short options. -/
def joined (flag : Flag) : List Char → Except Refusal Demand
  | [] => .ok (detached flag)
  | char :: rest =>
    if flag.takesValue then .ok ⟨[⟨flag, some (String.ofList (char :: rest))⟩], none⟩
    else
      match Flag.ofName? (String.ofList ['-', char]) with
      | none => .error (.ignoredValue flag (String.ofList (char :: rest)))
      | some next => (joined next rest).map fun demand =>
        { demand with actions := ⟨flag, none⟩ :: demand.actions }

/-- The demand of an option's token; other tokens make none. -/
def Token.demand : Token → Except Refusal Demand
  | .long flag none | .short flag none => .ok (detached flag)
  | .long flag (some value) => attachedValue flag value
  | .short flag (some value) =>
    if value = "" then attachedValue flag value else joined flag value.toList
  | .unknown _ | .separator | .argument _ => .ok ⟨[], none⟩

structure Progress where
  path : Option String := none
  choices : Choices := {}
  extras : List String := []
  -- The actions put off until the next word has come, which is the value of this option.
  waiting : Option (List Action × Flag) := none
  atPath : Bool := false
  deriving DecidableEq, Repr

inductive Stop where
  | help
  | refused (refusal : Refusal)
  deriving DecidableEq, Repr

/-- The choices after an action. The last value given for an option counts. -/
def act (choices : Choices) (action : Action) : Except Stop Choices :=
  match action.flag, action.value with
  | .help, _ => .error .help
  | .output, none | .indent, none => .ok choices
  | .output, some value =>
    if value = separatorWord then .ok { choices with output := .void }
    else .ok { choices with output := .value (Path.ofText value) }
  | .indent, some value =>
    if value = separatorWord then .ok { choices with indent := .void }
    else
      match Text.integer? value with
      | some width => .ok { choices with indent := .value width }
      | none => .error (.refused (.invalidInteger .indent value))
  | .stripDebugging, _ => .ok { choices with stripDebugging := true }
  | .instructionObjects, _ => .ok { choices with instructionObjects := true }
  | .listing, _ => .ok { choices with listing := true }
  | .stdout, _ => .ok { choices with stdout := true }
  | .compile, _ => .ok { choices with compile := true }
  | .verbose, _ => .ok { choices with verbose := true }

namespace Progress

def actAll (progress : Progress) : List Action → Except Stop Progress
  | [] => .ok progress
  | action :: rest =>
    match act progress.choices action with
    | .error stop => .error stop
    | .ok choices => { progress with choices }.actAll rest

def reject (progress : Progress) (word : String) : Progress :=
  { progress with extras := word :: progress.extras }

/-- The progress after an argument: it is the path, if there is none yet. -/
def take (progress : Progress) (word : String) : Progress :=
  match progress.path with
  | none => { progress with path := some word, atPath := true }
  | some _ => progress.reject word

/-- The progress after a token that no option is waiting for. The separator is passed over next to
the word that becomes the path, and is a word that no one wants anywhere else. -/
def meet (progress : Progress) (token : Token) : Except Stop Progress :=
  let later := { progress with atPath := false }
  match token with
  | .argument word => .ok (later.take word)
  | .separator =>
    .ok (if progress.path.isNone || progress.atPath then later else later.reject separatorWord)
  | .unknown word => .ok (later.reject word)
  | .long _ _ | .short _ _ =>
    match token.demand with
    | .error refusal => .error (.refused refusal)
    | .ok ⟨actions, none⟩ => later.actAll actions
    | .ok ⟨actions, some flag⟩ => .ok { later with waiting := some (actions, flag) }

def step (progress : Progress) (token : Token) : Except Stop Progress :=
  match progress.waiting with
  | none => progress.meet token
  | some (actions, flag) =>
    match token with
    | .argument value =>
      let later := { progress with waiting := none }
      later.actAll (actions ++ [Action.mk flag (some value)])
    | _ => .error (.refused (.missingValue flag))

/-- The progress after the last token, where no option may be waiting any more. -/
def settle (progress : Progress) : Except Stop Progress :=
  match progress.waiting with
  | none => .ok progress
  | some (_, flag) => .error (.refused (.missingValue flag))

end Progress

def actOn (tokens : List Token) : Except Stop Progress := do
  let progress ← tokens.foldlM Progress.step {}
  progress.settle

inductive Request where
  | help
  | refused (refusal : Refusal)
  | run (settings : Settings)
  deriving DecidableEq, Repr

def parse (words : List String) : Request :=
  match sort words with
  | .error refusal => .refused refusal
  | .ok tokens =>
    match actOn tokens with
    | .error .help => .help
    | .error (.refused refusal) => .refused refusal
    | .ok progress =>
      match progress.path, progress.extras with
      | none, _ => .refused .missingPath
      | some path, [] => .run { progress.choices with path := Path.ofText path }
      | some _, extras => .refused (.unrecognized extras.reverse)

end LuaBytecode.CommandLine
