import LuaBytecode.Listing
import LuaBytecode.Proofs.Results
import Mathlib.Algebra.GroupWithZero.Nat
import Mathlib.Data.List.Forall2

/-!
# The blocks of a listing

A listing is made by recursion over the tree of functions, and the walk over the tree by another
one. Both go through the functions in the same order: the listing of a tree is one block of lines
for each function of the walk, with an empty line between two blocks, and only the first block can
be that of a main function. From this follows how many lines a listing has.
-/

set_option autoImplicit false

namespace LuaBytecode

/-! ## One function -/

/-- Lines that show the items of a list, one line for each item and its index. -/
def Shows {α : Type} (item : Nat → α → Except NumeralFailure String) (items : List α)
    (lines : List String) : Prop :=
  List.Forall₂ (fun entry line => item entry.2 entry.1 = .ok line) items.zipIdx lines

/-- The lines about a list that may have been left out: how many items it has, then the items. -/
inductive Section {α : Type} (title : String) (item : Nat → α → Except NumeralFailure String) :
    Option (List α) → List String → Prop where
  | absent : Section title item none []
  | present {items : List α} {lines : List String} (shown : Shows item items lines) :
      Section title item (some items) (sectionTitle title items.length :: lines)

def sectionLength {α : Type} : Option (List α) → Nat
  | none => 0
  | some items => 1 + items.length

namespace FunctionBody

/-- How many lines a function has in a listing, without those nested in it. -/
def lineCount (body : FunctionBody) : Nat :=
  3 + body.instructions.length + body.constants.length + sectionLength body.locals +
    sectionLength body.upvalues

end FunctionBody

/-- The lines of one function, without those nested in it. -/
inductive Prototype.Block (function : Prototype) (kind : String) : List String → Prop where
  | intro {code constants locals upvalues : List String}
      (instructions : Shows (fun counter (instruction : Instruction) =>
        instruction.listingLine counter function.body) function.body.instructions code)
      (pool : Shows FunctionBody.constantLine function.body.constants constants)
      (scopes : Section "locals" FunctionBody.localLine function.body.locals locals)
      (names : Section "upvalues" (fun index name => .ok (FunctionBody.upvalueLine index name))
        function.body.upvalues upvalues) :
      function.Block kind
        (function.body.heading kind :: function.body.tally function.functions.length :: code ++
          sectionTitle "constants" function.body.constants.length :: constants ++ locals ++
          upvalues)

theorem mapIndexed_eq_ok {α : Type} {item : Nat → α → Except NumeralFailure String}
    {items : List α} {index : Nat} {lines : List String} :
    mapIndexed item index items = .ok lines ↔
      List.Forall₂ (fun entry line => item entry.2 entry.1 = .ok line) (items.zipIdx index)
        lines := by
  induction items generalizing index lines with
  | nil =>
      rw [mapIndexed, List.zipIdx_nil, List.forall₂_nil_left_iff, Except.ok.injEq, eq_comm]
  | cons first rest ih =>
      rw [mapIndexed, List.zipIdx_cons, List.forall₂_cons_left_iff, bind_eq_ok]
      simp only [bind_eq_ok, ih]
      constructor
      · rintro ⟨head, headShown, tail, tailShown, ⟨⟩⟩
        exact ⟨head, tail, headShown, tailShown, rfl⟩
      · rintro ⟨head, tail, headShown, tailShown, rfl⟩
        exact ⟨head, headShown, tail, tailShown, rfl⟩

theorem Shows.length_eq {α : Type} {item : Nat → α → Except NumeralFailure String}
    {items : List α} {lines : List String} (shown : Shows item items lines) :
    lines.length = items.length := by
  rw [← List.Forall₂.length_eq shown, List.length_zipIdx]

theorem Section.length_eq {α : Type} {title : String}
    {item : Nat → α → Except NumeralFailure String} {items : Option (List α)}
    {lines : List String} (shown : Section title item items lines) :
    lines.length = sectionLength items := by
  cases shown with
  | absent => rfl
  | present shown =>
      rw [List.length_cons, shown.length_eq, sectionLength, Nat.add_comm]

namespace FunctionBody

theorem localLines_eq_ok {body : FunctionBody} {lines : List String} :
    body.localLines = .ok lines ↔ Section "locals" localLine body.locals lines := by
  rw [localLines]
  cases body.locals with
  | none =>
      constructor
      · rintro ⟨⟩
        exact .absent
      · rintro ⟨⟩
        rfl
  | some items =>
      simp only [bind_eq_ok, mapIndexed_eq_ok]
      constructor
      · rintro ⟨lines, shown, ⟨⟩⟩
        exact .present shown
      · rintro (_ | shown)
        exact ⟨_, shown, rfl⟩

theorem shows_upvalueLine {names lines : List String} :
    Shows (fun index name => .ok (upvalueLine index name)) names lines ↔
      names.mapIdx upvalueLine = lines := by
  rw [Shows, List.mapIdx_eq_zipIdx_map, ← List.forall₂_eq_eq_eq, List.forall₂_map_left_iff]
  simp only [Except.ok.injEq]

theorem upvalueLines_eq {body : FunctionBody} {lines : List String} :
    body.upvalueLines = lines ↔
      Section "upvalues" (fun index name => .ok (upvalueLine index name)) body.upvalues lines := by
  rw [upvalueLines]
  cases body.upvalues with
  | none =>
      constructor
      · rintro rfl
        exact .absent
      · rintro ⟨⟩
        rfl
  | some names =>
      constructor
      · rintro rfl
        exact .present (shows_upvalueLine.mpr rfl)
      · rintro (_ | shown)
        exact congrArg (List.cons _) (shows_upvalueLine.mp shown)

end FunctionBody

namespace Prototype

theorem listingBlock_eq_ok {body : FunctionBody} {functions : List Prototype} {isMain : Bool}
    {lines : List String} :
    body.listingBlock isMain functions.length = .ok lines ↔
      Block ⟨body, functions⟩ (kind isMain) lines := by
  simp only [FunctionBody.listingBlock, bind_eq_ok, mapIndexed_eq_ok,
    FunctionBody.localLines_eq_ok]
  constructor
  · rintro ⟨code, codeShown, constants, constantsShown, locals, localsShown, ⟨⟩⟩
    exact .intro codeShown constantsShown localsShown (FunctionBody.upvalueLines_eq.mp rfl)
  · rintro ⟨codeShown, constantsShown, localsShown, upvaluesShown⟩
    refine ⟨_, codeShown, _, constantsShown, _, localsShown, ?_⟩
    rw [← FunctionBody.upvalueLines_eq.mpr upvaluesShown]
    rfl

/-! ## Trees -/

/-- A block for each of the functions, none of them a main function. -/
def Blocks (functions : List Prototype) (blocks : List (List String)) : Prop :=
  List.Forall₂ (fun function block => function.Block (kind false) block) functions blocks

theorem blocks_append {left right : List Prototype} {blocks : List (List String)} :
    Blocks (left ++ right) blocks ↔ ∃ before after, Blocks left before ∧ Blocks right after ∧
      blocks = before ++ after := by
  constructor
  · intro shown
    induction left generalizing blocks with
    | nil => exact ⟨[], blocks, .nil, shown, rfl⟩
    | cons first rest ih =>
        obtain ⟨block, others, own, later, rfl⟩ := List.forall₂_cons_left_iff.mp shown
        obtain ⟨before, after, beforeShown, afterShown, rfl⟩ := ih later
        exact ⟨block :: before, after, .cons own beforeShown, afterShown, rfl⟩
  · rintro ⟨before, after, beforeShown, afterShown, rfl⟩
    exact List.rel_append beforeShown afterShown

mutual

theorem listingLines_eq_ok (isMain : Bool) : ∀ (root : Prototype) (lines : List String),
    root.listingLines isMain = .ok lines ↔
      ∃ first others, root.Block (kind isMain) first ∧ Blocks (walkAll root.functions) others ∧
        lines = first ++ others.flatMap ("" :: ·)
  | ⟨body, functions⟩, lines => by
      simp only [listingLines, bind_eq_ok, listingBlock_eq_ok, nestedLines_eq_ok functions]
      constructor
      · rintro ⟨first, own, _, ⟨others, nested, rfl⟩, ⟨⟩⟩
        exact ⟨first, others, own, nested, rfl⟩
      · rintro ⟨first, others, own, nested, rfl⟩
        exact ⟨first, own, _, ⟨others, nested, rfl⟩, rfl⟩

theorem nestedLines_eq_ok : ∀ (functions : List Prototype) (lines : List String),
    nestedLines functions = .ok lines ↔
      ∃ blocks, Blocks (walkAll functions) blocks ∧ lines = blocks.flatMap ("" :: ·)
  | [], lines => by
      rw [nestedLines, walkAll]
      constructor
      · rintro ⟨⟩
        exact ⟨[], .nil, rfl⟩
      · rintro ⟨_, ⟨⟩, rfl⟩
        rfl
  | ⟨body, functions⟩ :: rest, lines => by
      -- The functions below the first one come before the rest, as in the walk.
      simp only [nestedLines, bind_eq_ok, listingLines_eq_ok false ⟨body, functions⟩,
        nestedLines_eq_ok rest, walkAll, walk, List.cons_append]
      constructor
      · rintro ⟨_, ⟨first, others, own, below, rfl⟩, _, ⟨blocks, after, rfl⟩, ⟨⟩⟩
        refine ⟨first :: (others ++ blocks),
          .cons own (blocks_append.mpr ⟨others, blocks, below, after, rfl⟩), ?_⟩
        simp
      · rintro ⟨_, shown, rfl⟩
        obtain ⟨first, _, own, later, rfl⟩ := List.forall₂_cons_left_iff.mp shown
        obtain ⟨others, blocks, below, after, rfl⟩ := blocks_append.mp later
        refine ⟨_, ⟨first, others, own, below, rfl⟩, _, ⟨blocks, after, rfl⟩, ?_⟩
        simp [pure, Except.pure]

end

theorem Block.length_eq {function : Prototype} {kind : String} {block : List String}
    (shown : function.Block kind block) : block.length = function.body.lineCount := by
  obtain ⟨instructions, pool, scopes, names⟩ := shown
  simp only [List.length_append, List.length_cons, instructions.length_eq, pool.length_eq,
    scopes.length_eq, names.length_eq, FunctionBody.lineCount]
  omega

theorem Blocks.length_flatMap {functions : List Prototype} {blocks : List (List String)}
    (shown : Blocks functions blocks) :
    (blocks.flatMap ("" :: ·)).length =
      functions.length + (functions.map fun function => function.body.lineCount).sum := by
  induction shown with
  | nil => rfl
  | cons own _ ih =>
      rw [List.flatMap_cons, List.length_append, ih, List.length_cons, List.length_cons,
        List.map_cons, List.sum_cons, own.length_eq]
      omega

end Prototype

end LuaBytecode
