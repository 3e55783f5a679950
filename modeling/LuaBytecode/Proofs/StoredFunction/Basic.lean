import LuaBytecode.Options
import LuaBytecode.Proofs.HeaderFormat
import LuaBytecode.Prototype.Basic

/-!
# Functions as files store them

The tree of function prototypes on the side of the file, before anything of it is interpreted. What
its strings and constants are is left open: a vocabulary says how they are stored and what they
stand for. One vocabulary has strings as raw bytes and describes every file there is; another has
strings as texts and describes the files that a compiler writes.
-/

set_option autoImplicit false

namespace LuaBytecode

/-- The strings and the constants of stored functions: their formats and their meanings. -/
structure Vocabulary (σ κ : Type) where
  strings : Format σ
  constants : Format κ
  text : σ → Bytes
  constant : κ → Constant

structure StoredLocal (σ : Type) where
  name : σ
  startpc : Nat
  endpc : Nat

/-- What is stored of a function apart from the functions nested in it. -/
@[ext]
structure StoredBody (σ κ : Type) where
  source : σ
  lineDefined : Nat
  lastLineDefined : Nat
  upvalueCount : UInt8
  paramCount : UInt8
  vararg : UInt8
  maxStackSize : UInt8
  words : List Nat
  constants : List κ
  linePositions : List Nat
  locals : List (StoredLocal σ)
  upvalues : List σ

structure StoredFunction (σ κ : Type) where
  body : StoredBody σ κ
  functions : List (StoredFunction σ κ)

variable {σ κ : Type}

namespace Vocabulary

variable (vocabulary : Vocabulary σ κ) (header : Header)

/-- A name is the text of a string, each byte a character. -/
def name (string : σ) : String :=
  Bytes.latin1 (vocabulary.text string)

def locals : Format (StoredLocal σ) where
  encode stored := vocabulary.strings.encode stored.name ++ header.integers.encode stored.startpc ++
    header.integers.encode stored.endpc
  Fits stored := vocabulary.strings.Fits stored.name ∧ header.integers.Fits stored.startpc ∧
    header.integers.Fits stored.endpc

end Vocabulary

/-! ## Bytes -/

namespace StoredBody

variable (header : Header) (vocabulary : Vocabulary σ κ)

/-- What stands before the nested functions. -/
def front (body : StoredBody σ κ) : Bytes :=
  vocabulary.strings.encode body.source ++
  header.integers.encode body.lineDefined ++
  header.integers.encode body.lastLineDefined ++
  [body.upvalueCount, body.paramCount, body.vararg, body.maxStackSize] ++
  (header.lists header.words).encode body.words ++
  (header.lists vocabulary.constants).encode body.constants

/-- What stands after the nested functions. -/
def back (body : StoredBody σ κ) : Bytes :=
  (header.lists header.integers).encode body.linePositions ++
  (header.lists (vocabulary.locals header)).encode body.locals ++
  (header.lists vocabulary.strings).encode body.upvalues

structure Fits (body : StoredBody σ κ) : Prop where
  source : vocabulary.strings.Fits body.source
  lineDefined : header.integers.Fits body.lineDefined
  lastLineDefined : header.integers.Fits body.lastLineDefined
  words : (header.lists header.words).Fits body.words
  constants : (header.lists vocabulary.constants).Fits body.constants
  linePositions : (header.lists header.integers).Fits body.linePositions
  locals : (header.lists (vocabulary.locals header)).Fits body.locals
  upvalues : (header.lists vocabulary.strings).Fits body.upvalues

end StoredBody

namespace StoredFunction

variable (header : Header) (vocabulary : Vocabulary σ κ)

mutual

/-- The bytes of a function: the nested functions stand behind their count in the middle. -/
def encode : StoredFunction σ κ → Bytes
  | ⟨body, functions⟩ =>
    body.front header vocabulary ++ (header.integers.encode functions.length ++
      encodeAll functions) ++ body.back header vocabulary

def encodeAll : List (StoredFunction σ κ) → Bytes
  | [] => []
  | first :: rest => first.encode ++ encodeAll rest

end

inductive Fits : StoredFunction σ κ → Prop where
  | intro {body : StoredBody σ κ} {functions : List (StoredFunction σ κ)} :
      body.Fits header vocabulary → header.integers.Fits functions.length →
      (∀ function ∈ functions, Fits function) → Fits ⟨body, functions⟩

mutual

/-- How many levels of functions there are below a function. -/
def height : StoredFunction σ κ → Nat
  | ⟨_, functions⟩ => heightAll functions

def heightAll : List (StoredFunction σ κ) → Nat
  | [] => 0
  | first :: rest => max (first.height + 1) (heightAll rest)

end

theorem encodeAll_eq_flatMap (functions : List (StoredFunction σ κ)) :
    encodeAll header vocabulary functions = functions.flatMap (encode header vocabulary) := by
  induction functions with
  | nil => rfl
  | cons first rest ih => rw [encodeAll, ih, List.flatMap_cons]

theorem heightAll_le {functions : List (StoredFunction σ κ)} {levels : Nat} :
    heightAll functions ≤ levels ↔ ∀ function ∈ functions, function.height < levels := by
  induction functions with
  | nil => simp [heightAll]
  | cons first rest ih =>
      rw [heightAll, Nat.max_le, ih, List.forall_mem_cons, Nat.succ_le_iff]

/-- Functions with fewer than the given number of levels, themselves included. -/
def within (levels : Nat) : Format (StoredFunction σ κ) where
  encode := encode header vocabulary
  Fits function := function.Fits header vocabulary ∧ function.height < levels

theorem encode_within_succ (levels : Nat) (body : StoredBody σ κ)
    (functions : List (StoredFunction σ κ)) :
    (within header vocabulary (levels + 1)).encode ⟨body, functions⟩ =
      body.front header vocabulary ++
        (header.lists (within header vocabulary levels)).encode functions ++
        body.back header vocabulary := by
  show encode header vocabulary ⟨body, functions⟩ = _
  rw [encode, encodeAll_eq_flatMap]
  rfl

theorem fits_within_succ {levels : Nat} {body : StoredBody σ κ}
    {functions : List (StoredFunction σ κ)} :
    (within header vocabulary (levels + 1)).Fits ⟨body, functions⟩ ↔
      body.Fits header vocabulary ∧
        (header.lists (within header vocabulary levels)).Fits functions := by
  constructor
  · rintro ⟨⟨bodyFits, countFits, nestedFit⟩, low⟩
    rw [height, Nat.lt_succ_iff, heightAll_le] at low
    exact ⟨bodyFits, countFits, fun function member =>
      ⟨nestedFit function member, low function member⟩⟩
  · rintro ⟨bodyFits, countFits, nestedFit⟩
    refine ⟨⟨bodyFits, countFits, fun function member => (nestedFit function member).1⟩, ?_⟩
    rw [height, Nat.lt_succ_iff, heightAll_le]
    exact fun function member => (nestedFit function member).2

end StoredFunction

/-! ## Meaning -/

def StoredLocal.meaning (vocabulary : Vocabulary σ κ) (stored : StoredLocal σ) : Local :=
  ⟨vocabulary.name stored.name, stored.startpc, stored.endpc⟩

/-- The function body that is stored, with or without its debug information. -/
def StoredBody.meaning (vocabulary : Vocabulary σ κ) (options : Options)
    (body : StoredBody σ κ) : FunctionBody :=
  let keep := !options.stripDebugging
  { source := vocabulary.name body.source
    lineDefined := body.lineDefined
    lastLineDefined := body.lastLineDefined
    upvalueCount := body.upvalueCount.toNat
    paramCount := body.paramCount.toNat
    vararg := body.vararg.toNat
    maxStackSize := body.maxStackSize.toNat
    instructions := body.words.map fun (word : Nat) => Instruction.ofWord word
    constants := body.constants.map vocabulary.constant
    linePositions := if keep then some (body.linePositions.map Int.ofNat) else none
    locals := if keep then some (body.locals.map (StoredLocal.meaning vocabulary)) else none
    upvalues := if keep then some (body.upvalues.map vocabulary.name) else none }

namespace StoredFunction

variable (vocabulary : Vocabulary σ κ) (options : Options)

mutual

def meaning : StoredFunction σ κ → Prototype
  | ⟨body, functions⟩ => ⟨body.meaning vocabulary options, meaningAll functions⟩

def meaningAll : List (StoredFunction σ κ) → List Prototype
  | [] => []
  | first :: rest => first.meaning :: meaningAll rest

end

theorem meaningAll_eq_map (functions : List (StoredFunction σ κ)) :
    meaningAll vocabulary options functions = functions.map (meaning vocabulary options) := by
  induction functions with
  | nil => rfl
  | cons first rest ih => rw [meaningAll, ih, List.map_cons]

end StoredFunction

end LuaBytecode
