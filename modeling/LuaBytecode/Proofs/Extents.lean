import LuaBytecode.Proofs.Cursor
import LuaBytecode.Proofs.Notes
import LuaBytecode.Proofs.Progress
import LuaBytecode.Proofs.StoredFunction.Failure
import Mathlib.Data.List.Chain

/-!
# The extents of functions

Every function that is read to its end leaves a note with its extent in the file. The notes of a
decoded file are the extents of its functions, each after those nested in it. Nested functions stand
side by side strictly inside the function around them, and reading again at the start of any extent
gives the function that stands there.
-/

set_option autoImplicit false

namespace LuaBytecode

open Reader (takes_bind takes_pure takes_offset takes_remaining takes_note takes_noteIf takes_byte)

/-! ## Extents -/

/-- A function with the place it takes in the file, and so for the functions nested in it. -/
structure Extent where
  body : FunctionBody
  depth : Int
  start : Nat
  stop : Nat
  nested : List Extent

namespace Extent

mutual

def prototype : Extent → Prototype
  | ⟨body, _, _, _, nested⟩ => ⟨body, prototypes nested⟩

def prototypes : List Extent → List Prototype
  | [] => []
  | first :: rest => first.prototype :: prototypes rest

end

mutual

/-- The extents of a tree, each after those nested in it. -/
def postorder : Extent → List Extent
  | ⟨body, depth, start, stop, nested⟩ =>
    postorderAll nested ++ [⟨body, depth, start, stop, nested⟩]

def postorderAll : List Extent → List Extent
  | [] => []
  | first :: rest => first.postorder ++ postorderAll rest

end

/-- What is noted of a function. -/
def span (extent : Extent) : Log.Span where
  source := extent.body.source
  depth := extent.depth
  start := extent.start
  stop := extent.stop
  instructions := extent.body.instructions.length
  constants := extent.body.constants.length
  functions := extent.nested.length

theorem length_prototypes (extents : List Extent) :
    (prototypes extents).length = extents.length := by
  induction extents with
  | nil => rfl
  | cons first rest ih => rw [prototypes, List.length_cons, ih, List.length_cons]

mutual

theorem length_postorder : ∀ extent : Extent,
    extent.postorder.length = extent.prototype.walk.length
  | ⟨body, depth, start, stop, nested⟩ => by
      rw [postorder, List.length_append, length_postorderAll nested, prototype, Prototype.walk]
      rfl

theorem length_postorderAll : ∀ extents : List Extent,
    (postorderAll extents).length = (Prototype.walkAll (prototypes extents)).length
  | [] => rfl
  | first :: rest => by
      rw [postorderAll, List.length_append, length_postorder first, length_postorderAll rest,
        prototypes, Prototype.walkAll, List.length_append]

end

theorem mem_postorder_self (extent : Extent) : extent ∈ extent.postorder := by
  cases extent
  simp [postorder]

theorem mem_postorderAll {extents : List Extent} {extent : Extent} (member : extent ∈ extents) :
    extent ∈ postorderAll extents := by
  induction extents with
  | nil => cases member
  | cons first rest ih =>
      rw [postorderAll, List.mem_append]
      rcases List.mem_cons.mp member with rfl | inRest
      · exact .inl extent.mem_postorder_self
      · exact .inr (ih inRest)

/-- Side by side from one place to another, without a gap. -/
inductive Adjoin : Nat → List Extent → Nat → Prop where
  | nil (place : Nat) : Adjoin place [] place
  | cons {place : Nat} {first : Extent} {rest : List Extent} {stop : Nat} :
      first.start = place → Adjoin first.stop rest stop → Adjoin place (first :: rest) stop

theorem Adjoin.isChain {start stop : Nat} {extents : List Extent}
    (adjoin : Adjoin start extents stop) :
    extents.IsChain fun left right => left.stop = right.start := by
  induction adjoin with
  | nil => exact .nil
  | cons _ after ih =>
      cases after with
      | nil => exact .singleton _
      | cons next _ => exact .cons_cons next.symm ih

theorem Adjoin.bounds {start stop : Nat} {extents : List Extent}
    (adjoin : Adjoin start extents stop) (forth : ∀ extent ∈ extents, extent.start ≤ extent.stop) :
    start ≤ stop ∧ ∀ extent ∈ extents, start ≤ extent.start ∧ extent.stop ≤ stop := by
  induction adjoin with
  | nil place => exact ⟨Nat.le_refl _, by simp⟩
  | cons here _ ih =>
      obtain ⟨firstForth, restForth⟩ := List.forall_mem_cons.mp forth
      obtain ⟨beyond, inside⟩ := ih restForth
      refine ⟨by omega, List.forall_mem_cons.mpr ⟨⟨by omega, beyond⟩, ?_⟩⟩
      intro extent member
      have bounds := inside extent member
      omega

/-- How a function stands in the file, and among the functions nested right in it. -/
structure Placed (header : Header) (options : Options) (buffer : Buffer) (extent : Extent) :
    Prop where
  contiguous : extent.nested.IsChain fun left right => left.stop = right.start
  inside : ∀ child ∈ extent.nested, child.depth = extent.depth + 1 ∧
    extent.start < child.start ∧ child.stop < extent.stop
  readAgain : (Prototype.read header options extent.depth).Takes buffer extent.start
    extent.prototype extent.stop

end Extent

/-! ## Notes -/

def Log.Event.span? : Log.Event → Option Log.Span
  | .prototypeRead span => some span
  | _ => none

/-- The records of functions are told from all others by their origin. -/
theorem Log.records_of_spans (events : List Log.Event) :
    (events.map Log.Event.record).filter (fun record => record.origin == "luadistil.chunk") =
      (events.filterMap Log.Event.span?).map fun span =>
        ⟨Log.Level.debug, "luadistil.chunk", span.text⟩ := by
  induction events with
  | nil => rfl
  | cons event events ih =>
      rw [List.map_cons, List.filter_cons, ih]
      cases event with
      | prototypeRead span => rfl
      | _ => rfl

namespace Reader

variable {α β : Type} {buffer : Buffer} {start stop : Nat}

/-- The reader succeeds and has noted the given functions. -/
def Traces (reader : Reader α) (buffer : Buffer) (start : Nat) (value : α) (stop : Nat)
    (spans : List Log.Span) : Prop :=
  reader.Takes buffer start value stop ∧
    (reader buffer start).events.filterMap Log.Event.span? = spans

theorem Traces.split {first : Reader α} {next : α → Reader β} {result : β}
    {spans : List Log.Span} (traced : (first >>= next).Traces buffer start result stop spans) :
    ∃ value middle before after, first.Traces buffer start value middle before ∧
      (next value).Traces buffer middle result stop after ∧ spans = before ++ after := by
  obtain ⟨taken, noted⟩ := traced
  obtain ⟨value, middle, before, after, ⟨firstTaken, rfl⟩, ⟨nextTaken, rfl⟩, joined⟩ :=
    Logs.split ⟨taken, rfl⟩
  rw [joined, List.filterMap_append] at noted
  exact ⟨value, middle, _, _, ⟨firstTaken, rfl⟩, ⟨nextTaken, rfl⟩, noted.symm⟩

/-- A reader that notes no function can be left out. -/
theorem Traces.pass {first : Reader α} {next : α → Reader β} {result : β}
    {spans : List Log.Span}
    (quiet : (first buffer start).events.filterMap Log.Event.span? = [])
    (traced : (first >>= next).Traces buffer start result stop spans) :
    ∃ value middle, first.Takes buffer start value middle ∧
      (next value).Traces buffer middle result stop spans := by
  obtain ⟨value, middle, before, after, ⟨taken, noted⟩, rest, rfl⟩ := traced.split
  obtain rfl : before = [] := noted.symm.trans quiet
  exact ⟨value, middle, taken, rest⟩

/-- The circumstances in which the extent of no function is noted. -/
def quiet (buffer : Buffer) : Circumstances :=
  .noting buffer fun event => event.span? = none

theorem Steps.events_quiet {here there : Reader α} {least : Nat}
    (steps : Steps (quiet buffer) least here there start) :
    (here buffer start).events.filterMap Log.Event.span? = [] :=
  List.filterMap_eq_nil_iff.mpr steps.orderly.noted

/-- What is left out still takes its bytes. -/
theorem Traces.after {first first' : Reader α} {next : α → Reader β} {result : β} {least : Nat}
    {spans : List Log.Span} (steps : Steps (quiet buffer) least first first' start)
    (traced : (first >>= next).Traces buffer start result stop spans) :
    ∃ value middle, start + least ≤ middle ∧
      (next value).Traces buffer middle result stop spans := by
  obtain ⟨value, middle, taken, rest⟩ := traced.pass steps.events_quiet
  exact ⟨value, middle, steps.orderly.le_of_takes taken, rest⟩

end Reader

/-! ## Functions -/

variable {header : Header} {options : Options} {buffer : Buffer} {start stop : Nat}

/-- A list of functions stands side by side, if each of its functions has an extent. -/
theorem Reader.Traces.extents {item : Reader Prototype} {depth : Int}
    (each : ∀ {start stop tree spans}, item.Traces buffer start tree stop spans →
      ∃ extent : Extent, extent.prototype = tree ∧ extent.depth = depth ∧ extent.start = start ∧
        extent.stop = stop ∧ extent.postorder.map Extent.span = spans ∧
        ∀ node ∈ extent.postorder, node.Placed header options buffer)
    {count : Nat} {trees : List Prototype} {spans : List Log.Span}
    (traced : (Reader.items item count).Traces buffer start trees stop spans) :
    ∃ extents : List Extent, Extent.prototypes extents = trees ∧
      (∀ extent ∈ extents, extent.depth = depth) ∧ Extent.Adjoin start extents stop ∧
      (Extent.postorderAll extents).map Extent.span = spans ∧
      ∀ node ∈ Extent.postorderAll extents, node.Placed header options buffer := by
  induction count generalizing start trees spans with
  | zero =>
      obtain ⟨taken, noted⟩ := traced
      obtain ⟨rfl, rfl⟩ := takes_pure.mp taken
      exact ⟨[], rfl, by simp, .nil start, noted, by simp [Extent.postorderAll]⟩
  | succ count ih =>
      obtain ⟨tree, middle, before, after, firstTraced, othersTraced, rfl⟩ := traced.split
      obtain ⟨rest, _, later, last, restTraced, ⟨taken, noted⟩, rfl⟩ := othersTraced.split
      obtain ⟨rfl, rfl⟩ := takes_pure.mp taken
      obtain rfl : [] = last := noted
      obtain ⟨first, rfl, firstDepth, rfl, rfl, rfl, firstPlaced⟩ := each firstTraced
      obtain ⟨extents, rfl, depths, adjoin, rfl, placed⟩ := ih restTraced
      refine ⟨first :: extents, rfl, List.forall_mem_cons.mpr ⟨firstDepth, depths⟩,
        .cons rfl adjoin, ?_, ?_⟩
      · rw [Extent.postorderAll, List.map_append, List.append_nil]
      · intro node member
        rw [Extent.postorderAll, List.mem_append] at member
        rcases member with inFirst | inRest
        · exact firstPlaced node inFirst
        · exact placed node inRest

theorem Extent.Placed.start_le_stop {extent : Extent}
    (placed : extent.Placed header options buffer) : extent.start ≤ extent.stop := by
  have progress := ((ItemKind.prototype options _).orderly header buffer _).le_of_takes
    placed.readAgain
  omega

/-- A function notes what the functions nested in it note, and then its own extent; they are read
from a place after its start to a place before its end. -/
theorem Prototype.traces_readWithin_succ (nonzero : header.widths.int ≠ 0) {levels : Nat}
    {depth : Int} {tree : Prototype} {spans : List Log.Span}
    (traced : (readWithin header options (levels + 1) depth).Traces buffer start tree stop spans) :
    ∃ (count first last : Nat) (nestedSpans : List Log.Span), start < first ∧ last < stop ∧
      (Reader.items (readWithin header options levels (depth + 1)) count).Traces buffer first
        tree.functions last nestedSpans ∧
      spans = nestedSpans ++ [{
        source := tree.body.source, depth, start, stop
        instructions := tree.body.instructions.length
        constants := tree.body.constants.length
        functions := tree.functions.length }] := by
  unfold readWithin at traced
  obtain ⟨_, _, cursor, traced⟩ := traced.pass rfl
  obtain ⟨rfl, rfl⟩ := takes_offset.mp cursor
  obtain ⟨front, _, afterFront, traced⟩ :=
    traced.after (FunctionBody.walks_readFront False.elim (fun _ => rfl) _)
  obtain ⟨functions, _, nestedSpans, ownSpans, functionsTraced, traced, spansJoined⟩ :=
    traced.split
  obtain ⟨count, _, afterCount, nestedTraced⟩ :=
    functionsTraced.after (Header.walks_integerField False.elim _)
  obtain ⟨body, _, afterBack, traced⟩ :=
    traced.after (FunctionBody.walks_readBack False.elim _ front _)
  obtain ⟨_, _, cursor, traced⟩ := traced.pass rfl
  obtain ⟨rfl, rfl⟩ := takes_offset.mp cursor
  obtain ⟨_, _, noted, rest, ⟨noteTaken, note⟩, ⟨taken, nothing⟩, ownJoined⟩ := traced.split
  obtain rfl := takes_note.mp noteTaken
  obtain ⟨rfl, rfl⟩ := takes_pure.mp taken
  obtain rfl : [_] = noted := note
  obtain rfl : [] = rest := nothing
  -- The four bytes of the front keep the nested functions off the start, the counts of the back
  -- off the end.
  refine ⟨count, _, _, nestedSpans, ?_, ?_, nestedTraced, ?_⟩
  · omega
  · omega
  · rw [spansJoined, ownJoined]
    rfl

theorem Prototype.extent_of_traces (nonzero : header.widths.int ≠ 0) {depth : Int}
    {tree : Prototype} {spans : List Log.Span}
    (traced : (read header options depth).Traces buffer start tree stop spans) :
    ∃ extent : Extent, extent.prototype = tree ∧ extent.depth = depth ∧ extent.start = start ∧
      extent.stop = stop ∧ extent.postorder.map Extent.span = spans ∧
      ∀ node ∈ extent.postorder, node.Placed header options buffer := by
  -- The induction is on the levels that are left, as in the reader.
  induction left : ((nestingLimit : Int) + 1 - depth).toNat generalizing depth start stop tree spans
  with
  | zero =>
      have deep : nestingLimit < depth := by omega
      obtain ⟨failed, -⟩ : (read header options depth).Fails buffer start _ _ :=
        read_of_limit_lt deep options
      rw [traced.1.1] at failed
      cases failed
  | succ levels ih =>
      have whole := traced.1
      rw [read_of_le_limit (by omega)] at traced
      obtain ⟨count, first, last, nestedSpans, afterStart, beforeStop, nestedTraced, rfl⟩ :=
        traces_readWithin_succ nonzero traced
      obtain ⟨body, functions⟩ := tree
      obtain ⟨nested, rfl, depths, adjoin, rfl, nestedPlaced⟩ :=
        Reader.Traces.extents (fun traced => ih traced (by omega)) nestedTraced
      have own : Extent.Placed header options buffer ⟨body, depth, start, stop, nested⟩ := by
        refine ⟨adjoin.isChain, ?_, whole⟩
        intro child member
        obtain ⟨-, bounds⟩ := adjoin.bounds fun child member =>
          (nestedPlaced child (Extent.mem_postorderAll member)).start_le_stop
        obtain ⟨fromFirst, toLast⟩ := bounds child member
        exact ⟨depths child member, Nat.lt_of_lt_of_le afterStart fromFirst,
          Nat.lt_of_le_of_lt toLast beforeStop⟩
      refine ⟨⟨body, depth, start, stop, nested⟩, rfl, rfl, rfl, rfl, ?_, ?_⟩
      · rw [Extent.postorder, List.map_append, Extent.length_prototypes]
        rfl
      · intro node member
        rw [Extent.postorder, List.mem_append, List.mem_singleton] at member
        rcases member with below | rfl
        · exact nestedPlaced node below
        · exact own

/-! ## Files -/

/-- After the root function of a file nothing is noted of functions. -/
theorem traces_of_decode {data : Bytes} {file : DecodedFile}
    (succeeded : (decode data options).result = .ok file) :
    (Prototype.read file.header options 0).Traces data.toArray Header.size file.tree file.consumed
      ((decode data options).events.filterMap Log.Event.span?) := by
  have traced : (DecodedFile.read options).Traces data.toArray 0 file _ _ :=
    ⟨⟨succeeded, rfl⟩, rfl⟩
  have headerSteps : Reader.Steps (Reader.quiet data.toArray) _ Header.read Header.read 0 :=
    Header.steps_read (fun _ => rfl) fun _ => rfl
  obtain ⟨header, _, headerTaken, traced⟩ := traced.pass headerSteps.events_quiet
  obtain ⟨tree, _, _, rest, treeTraced, traced, joined⟩ := traced.split
  obtain ⟨_, _, left, traced⟩ := traced.pass rfl
  obtain ⟨-, rfl⟩ := takes_remaining.mp left
  obtain ⟨_, _, cursor, traced⟩ := traced.pass rfl
  obtain ⟨rfl, rfl⟩ := takes_offset.mp cursor
  obtain ⟨_, _, noted, traced⟩ :=
    traced.pass (Reader.Steps.events_quiet (.noteIf _ rfl _))
  obtain rfl := takes_noteIf.mp noted
  obtain ⟨_, _, noted, ⟨taken, nothing⟩⟩ := traced.pass rfl
  obtain rfl := takes_note.mp noted
  obtain ⟨rfl, -⟩ := takes_pure.mp taken
  obtain rfl : [] = rest := nothing
  obtain ⟨stored, -, -, rfl, -⟩ := Header.read_acceptsOnly headerTaken
  rw [List.append_nil] at joined
  obtain rfl := joined
  have atHeaderEnd : 0 + (Header.storage.encode stored).length = Header.size :=
    (Nat.zero_add _).trans stored.length_encode
  rwa [atHeaderEnd] at treeTraced

/-- The functions of a decoded file are noted in postorder, as many as there are, and their extents
tile the file: the root from the end of the header to the end of what was read, nested functions
side by side strictly inside the function around them. Each can be read again by itself. -/
theorem extents_of_decode {data : Bytes} {file : DecodedFile}
    (succeeded : (decode data options).result = .ok file) :
    ∃ root : Extent, root.prototype = file.tree ∧ root.depth = 0 ∧ root.start = Header.size ∧
      root.stop = file.consumed ∧
      (decode data options).events.filterMap Log.Event.span? = root.postorder.map Extent.span ∧
      ((decode data options).events.map Log.Event.record).filter
          (fun record => record.origin == "luadistil.chunk") =
        (root.postorder.map fun node =>
          ⟨Log.Level.debug, "luadistil.chunk", node.span.text⟩) ∧
      root.postorder.length = file.tree.count ∧
      ∀ node ∈ root.postorder, node.Placed file.header options data.toArray := by
  have nonzero : file.header.widths.int ≠ 0 := by
    have positive := (header_valid_of_decode succeeded).int.1
    omega
  obtain ⟨root, sameTree, depth, start, stop, noted, placed⟩ :=
    Prototype.extent_of_traces nonzero (traces_of_decode succeeded)
  refine ⟨root, sameTree, depth, start, stop, noted.symm, ?_, ?_, placed⟩
  · rw [Log.records_of_spans, ← noted, List.map_map]
    rfl
  · rw [root.length_postorder, sameTree]
    rfl

/-- A root function with two nested in it, the second of which has one of its own. -/
def familyFile : Bytes :=
  [0x1b, 0x4c, 0x75, 0x61, 0x51, 0, 1, 1, 1, 1, 2, 1,
    0, 0, 0, 0, 0, 0, 2, 0, 0, 2,
      0, 1, 1, 0, 0, 0, 2, 0, 0, 0, 0, 0, 0,
      0, 2, 2, 0, 0, 0, 2, 0, 0, 1,
        0, 3, 3, 0, 0, 0, 2, 0, 0, 0, 0, 0, 0,
      0, 0, 0,
    0, 0, 0]

theorem extents_of_decode_familyFile :
    ∃ file, (decode familyFile {}).result = .ok file ∧ ∃ root : Extent,
      root.prototype = file.tree ∧ root.stop = file.consumed ∧
      (root.postorder.map fun node => (node.depth, node.start, node.stop)) =
        [(1, 22, 35), (2, 45, 58), (1, 35, 61), (0, 12, 64)] ∧
      ∀ node ∈ root.postorder, node.Placed file.header {} familyFile.toArray := by
  have accepted : (decode familyFile {}).result.toOption.isSome = true := by decide +kernel
  have places : ((decode familyFile {}).events.filterMap Log.Event.span?).map
        (fun span => (span.depth, span.start, span.stop)) =
      [(1, 22, 35), (2, 45, 58), (1, 35, 61), (0, 12, 64)] := by decide +kernel
  cases outcome : (decode familyFile {}).result with
  | error fault => simp [outcome, Except.toOption] at accepted
  | ok file =>
      obtain ⟨root, tree, -, -, stop, noted, -, -, placed⟩ := extents_of_decode outcome
      refine ⟨file, rfl, root, tree, stop, ?_, placed⟩
      rw [noted, List.map_map] at places
      exact places

end LuaBytecode
