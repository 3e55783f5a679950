import LuaBytecode.Text.Quoted
import LuaBytecode.Text.Utf8

/-!
# Why a text cannot be written in an encoding

The name may stand for no encoding, or the encoding may lack a character of the text. The wording of
each cause is fixed here, and so is the work that most encodings share: to write a text character by
character up to the first that is missing.
-/

set_option autoImplicit false

namespace LuaBytecode.Text

/-- The characters at positions `first` to `last` are missing from an encoding; `char` is the first
of them. -/
structure Unencodable where
  -- The name under which the encoding reports it.
  codec : String
  reason : String
  char : Char
  first : Nat
  last : Nat
  deriving DecidableEq, Repr

/-- What is said of missing characters. A single one is shown, a run of them is not. -/
def Unencodable.message (failure : Unencodable) : String :=
  let place :=
    if failure.first = failure.last then
      s!"character '{String.ofList (escapedCode failure.char.toNat)}' in position {failure.first}"
    else s!"characters in position {failure.first}-{failure.last}"
  s!"'{failure.codec}' codec can't encode {place}: {failure.reason}"

inductive LabelFailure where
  -- The part has no characters, or more than sixty-three.
  | badLength
  -- The part is not ASCII and yet starts like the written form of one that is not.
  | alreadyWritten
  | refusedCharacter (char : Char)
  | mixedDirections
  -- The part has characters written from right to left and does not begin and end with such.
  | openDirection
  deriving DecidableEq, Repr

def LabelFailure.message : LabelFailure → String
  | .badLength => "label empty or too long"
  | .alreadyWritten => "Label starts with ACE prefix"
  | .refusedCharacter char => s!"Invalid character {quoted (String.singleton char)}"
  | .mixedDirections => "Violation of BIDI requirement 2"
  | .openDirection => "Violation of BIDI requirement 3"

inductive EncodingFailure where
  | zeroInName
  | unknown (name : String)
  -- The name stands for a way to write bytes, not texts.
  | notText (name : String)
  -- The encoding accepts no text at all, not even the empty one.
  | refused
  | unencodable (failure : Unencodable)
  | label (failure : LabelFailure)
  deriving DecidableEq, Repr

/-- The most bytes of a name that are shown when it does not stand for a text encoding. -/
def shownNameBytes : Nat := 400

def EncodingFailure.message : EncodingFailure → String
  | .zeroInName => "embedded null character"
  | .unknown name => s!"unknown encoding: {name}"
  | .notText name =>
    let shown := tolerant ((Bytes.ofText name).take shownNameBytes)
    s!"'{shown}' is not a text encoding; use codecs.open() to handle arbitrary codecs"
  | .refused => "undefined encoding"
  | .unencodable failure => failure.message
  | .label failure => failure.message

/-- The bytes of `chars` under the given codes, up to the first run of characters without one. The
`position` is that of the first character in the whole text. -/
def encodeEach (codec reason : String) (code? : Char → Option Bytes) (position : Nat) :
    List Char → Except Unencodable Bytes
  | [] => .ok []
  | char :: rest =>
    match code? char with
    | some bytes => (encodeEach codec reason code? (position + 1) rest).map (bytes ++ ·)
    | none =>
      let run := rest.takeWhile fun later => (code? later).isNone
      .error ⟨codec, reason, char, position, position + run.length⟩

end LuaBytecode.Text
