/-!
# Log records

A record has a severity, the name of the part of the program it comes from, and a text. A console
shows the records at or above its threshold, one per line, with or without colour.
-/

set_option autoImplicit false

namespace LuaBytecode.Log

/-- A severity. Higher numbers are more severe, and every number is allowed. -/
abbrev Level := Int

namespace Level

def debug : Level := 10

def info : Level := 20

def warning : Level := 30

def error : Level := 40

def critical : Level := 50

def name (level : Level) : String :=
  if level = debug then "DEBUG"
  else if level = info then "INFO"
  else if level = warning then "WARNING"
  else if level = error then "ERROR"
  else if level = critical then "CRITICAL"
  else s!"Level {level}"

end Level

structure Record where
  level : Level
  origin : String
  text : String
  deriving DecidableEq, Repr

def rootOrigin : String := "root"

/-- A record from a part of the program, where a part without a name is the whole program. -/
def Record.make (level : Level) (origin text : String) : Record :=
  ⟨level, if origin = "" then rootOrigin else origin, text⟩

def Record.labelled (record : Record) : String :=
  s!"{record.level.name}: {record.origin}: {record.text}"

/-! ## Colour -/

inductive Colour where
  | red
  | green
  | yellow
  | blue
  | magenta
  | plain
  deriving DecidableEq, Repr

namespace Colour

/-- The colour a word names; any other word leaves the text plain. -/
def ofName (word : String) : Colour :=
  if word = "red" then .red
  else if word = "green" then .green
  else if word = "yellow" then .yellow
  else if word = "blue" then .blue
  else if word = "magenta" then .magenta
  else .plain

def code : Colour → String
  | .red => "31"
  | .green => "32"
  | .yellow => "33"
  | .blue => "34"
  | .magenta => "35"
  | .plain => "0"

def ofLevel (level : Level) : Colour :=
  if level = Level.debug then .blue
  else if level = Level.info then .green
  else if level = Level.warning then .yellow
  else if level = Level.error then .red
  else if level = Level.critical then .magenta
  else .green

/-- A text between the terminal codes that switch the colour on and off. -/
def paint (colour : Colour) (text : String) : String :=
  s!"\x1b[{colour.code}m{text}\x1b[0m"

end Colour

/-! ## Consoles -/

/-- How records are shown. A verbose console shows debugging records too, and labels every record.
-/
structure Console where
  verbose : Bool
  coloured : Bool
  deriving DecidableEq, Repr

namespace Console

def threshold (console : Console) : Level :=
  if console.verbose then Level.debug else Level.info

/-- The line a record is shown as, or nothing if it is below the threshold. -/
def line (console : Console) (record : Record) : String :=
  if record.level < console.threshold then ""
  else
    let text := if console.verbose then record.labelled else record.text
    let painted := if console.coloured then (Colour.ofLevel record.level).paint text else text
    painted ++ "\n"

def lines (console : Console) (records : List Record) : String :=
  String.join (records.map console.line)

end Console

end LuaBytecode.Log
