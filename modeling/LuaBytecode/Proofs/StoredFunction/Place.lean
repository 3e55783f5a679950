import LuaBytecode.Proofs.StoredFunction.Basic

/-!
# Where the functions of a tree stand

Every function of a stored tree with its depth and the offset of its first byte, in the order of the
file: a function before those nested in it, and these one after the other. Whatever passes from a
function to each function nested right in it holds at all places of the tree.
-/

set_option autoImplicit false

namespace LuaBytecode

namespace StoredFunction

variable {σ κ : Type} (header : Header) (vocabulary : Vocabulary σ κ)

/-- A function, how many levels below the root it lies and where it starts. -/
structure Place (σ κ : Type) where
  function : StoredFunction σ κ
  depth : Int
  start : Nat

/-- What stands before the first nested function. -/
def lead (body : StoredBody σ κ) (functions : List (StoredFunction σ κ)) : Bytes :=
  body.front header vocabulary ++ header.integers.encode functions.length

mutual

/-- Every function of the tree, the root at the given depth and offset. -/
def places (depth : Int) (start : Nat) : StoredFunction σ κ → List (Place σ κ)
  | ⟨body, functions⟩ =>
    ⟨⟨body, functions⟩, depth, start⟩ ::
      placesAll (depth + 1) (start + (lead header vocabulary body functions).length) functions

def placesAll (depth : Int) (start : Nat) : List (StoredFunction σ κ) → List (Place σ κ)
  | [] => []
  | first :: rest =>
    first.places depth start ++
      placesAll depth (start + (first.encode header vocabulary).length) rest

end

theorem nested_induction {motive : StoredFunction σ κ → Prop}
    (node : ∀ body functions, (∀ function ∈ functions, motive function) →
      motive ⟨body, functions⟩) : ∀ root, motive root
  | ⟨body, functions⟩ => node body functions fun function _ => nested_induction node function
  termination_by root => sizeOf root

theorem encodeAll_append (left right : List (StoredFunction σ κ)) :
    encodeAll header vocabulary (left ++ right) =
      encodeAll header vocabulary left ++ encodeAll header vocabulary right := by
  simp only [encodeAll_eq_flatMap, List.flatMap_append]

variable {header vocabulary} {depth : Int} {start : Nat}

/-- A place below a list of functions lies in one of them, and the places before it are those of the
functions before that one and those before it in that one. -/
theorem placesAll_split {functions : List (StoredFunction σ κ)} {earlier later : List (Place σ κ)}
    {place : Place σ κ}
    (split : placesAll header vocabulary depth start functions = earlier ++ place :: later) :
    ∃ before function after sooner rest, functions = before ++ function :: after ∧
      function.places header vocabulary depth
        (start + (encodeAll header vocabulary before).length) = sooner ++ place :: rest ∧
      earlier = placesAll header vocabulary depth start before ++ sooner := by
  induction functions generalizing start earlier with
  | nil =>
      rw [placesAll] at split
      simp at split
  | cons first others ih =>
      rw [placesAll] at split
      -- The place is found in the first function unless all of its places come before it.
      have found : (∃ rest, first.places header vocabulary depth start = earlier ++ place :: rest) ∨
          ∃ sooner, earlier = first.places header vocabulary depth start ++ sooner ∧
            placesAll header vocabulary depth (start + (first.encode header vocabulary).length)
              others = sooner ++ place :: later := by
        rcases List.append_eq_append_iff.mp split with
          ⟨sooner, same, inOthers⟩ | ⟨rest, inFirst, same⟩
        · exact .inr ⟨sooner, same, inOthers⟩
        · cases rest with
          | nil => exact .inr ⟨[], by simpa using inFirst.symm, by simpa using same.symm⟩
          | cons head rest =>
              obtain ⟨rfl, -⟩ := List.cons.inj same
              exact .inl ⟨rest, inFirst⟩
      rcases found with ⟨rest, inFirst⟩ | ⟨sooner, rfl, inOthers⟩
      · exact ⟨[], first, others, earlier, rest, rfl, inFirst, rfl⟩
      · obtain ⟨before, function, after, sooner, rest, rfl, inFunction, rfl⟩ := ih inOthers
        refine ⟨first :: before, function, after, sooner, rest, rfl, ?_, ?_⟩
        · rw [encodeAll, List.length_append, ← Nat.add_assoc]
          exact inFunction
        · rw [placesAll, List.append_assoc]

/-- What a function hands on to each function right in it holds at every place. -/
theorem forall_places {motive : StoredFunction σ κ → Int → Nat → Prop}
    (nested : ∀ {body before function after depth start},
      motive ⟨body, before ++ function :: after⟩ depth start →
      motive function (depth + 1)
        (start + (lead header vocabulary body (before ++ function :: after)).length +
          (encodeAll header vocabulary before).length))
    {root : StoredFunction σ κ} (atRoot : motive root depth start) :
    ∀ place ∈ root.places header vocabulary depth start,
      motive place.function place.depth place.start := by
  induction root using nested_induction generalizing depth start with
  | node body functions ih =>
      intro place member
      rw [places, List.mem_cons] at member
      rcases member with rfl | below
      · exact atRoot
      · obtain ⟨earlier, later, split⟩ := List.append_of_mem below
        obtain ⟨before, function, after, sooner, rest, rfl, inFunction, -⟩ := placesAll_split split
        refine ih function (by simp) (nested atRoot) place ?_
        rw [inFunction]
        simp

theorem start_le_of_mem_places {root : StoredFunction σ κ} {place : Place σ κ}
    (member : place ∈ root.places header vocabulary depth start) : start ≤ place.start := by
  refine forall_places (motive := fun _ _ here => start ≤ here) ?_ (Nat.le_refl start) place member
  intro _ _ _ _ _ _ before
  omega

theorem Fits.body {function : StoredFunction σ κ} (fits : function.Fits header vocabulary) :
    function.body.Fits header vocabulary := by
  cases fits with
  | intro bodyFits _ _ => exact bodyFits

theorem Fits.nested {body : StoredBody σ κ} {functions : List (StoredFunction σ κ)}
    (fits : Fits header vocabulary ⟨body, functions⟩) :
    ∀ function ∈ functions, function.Fits header vocabulary := by
  cases fits with
  | intro _ _ nestedFit => exact nestedFit

theorem fits_of_mem_places {root : StoredFunction σ κ} (fits : root.Fits header vocabulary)
    {place : Place σ κ} (member : place ∈ root.places header vocabulary depth start) :
    place.function.Fits header vocabulary := by
  refine forall_places (motive := fun function _ _ => function.Fits header vocabulary) ?_ fits
    place member
  intro _ before function after _ _ parentFits
  exact parentFits.nested function (by simp)

theorem encode_split (body : StoredBody σ κ) (before after : List (StoredFunction σ κ))
    (function : StoredFunction σ κ) :
    encode header vocabulary ⟨body, before ++ function :: after⟩ =
      lead header vocabulary body (before ++ function :: after) ++
        (encodeAll header vocabulary before ++ (function.encode header vocabulary ++
          (encodeAll header vocabulary after ++ body.back header vocabulary))) := by
  rw [encode, encodeAll_append, encodeAll, lead]
  simp only [List.append_assoc]

theorem holds_of_mem_places {buffer : Buffer} {root : StoredFunction σ κ}
    (held : buffer.Holds start (root.encode header vocabulary)) {place : Place σ κ}
    (member : place ∈ root.places header vocabulary depth start) :
    buffer.Holds place.start (place.function.encode header vocabulary) := by
  refine forall_places
    (motive := fun function _ here => buffer.Holds here (function.encode header vocabulary)) ?_
    held place member
  intro body before function after _ here parentHeld
  rw [encode_split] at parentHeld
  obtain ⟨-, nestedHeld⟩ := Buffer.holds_append.mp parentHeld
  obtain ⟨-, functionHeld⟩ := Buffer.holds_append.mp nestedHeld
  exact (Buffer.holds_append.mp functionHeld).1

/-! ## Depths -/

theorem depth_le_of_mem_places {limit : Int} {root : StoredFunction σ κ}
    (low : depth + root.height ≤ limit) {place : Place σ κ}
    (member : place ∈ root.places header vocabulary depth start) : place.depth ≤ limit := by
  have lowThere := forall_places
    (motive := fun function deep _ => deep + (function.height : Int) ≤ limit) ?_ low place member
  · omega
  · intro body before function after deep _ lowParent
    have below : function.height < heightAll (before ++ function :: after) :=
      heightAll_le.mp (Nat.le_refl _) function (by simp)
    rw [height] at lowParent
    omega

theorem exists_places_subset {functions : List (StoredFunction σ κ)}
    {function : StoredFunction σ κ} (member : function ∈ functions) :
    ∃ there, function.places header vocabulary depth there ⊆
      placesAll header vocabulary depth start functions := by
  induction functions generalizing start with
  | nil => cases member
  | cons first rest ih =>
      rw [placesAll]
      rcases List.mem_cons.mp member with rfl | inRest
      · exact ⟨start, List.subset_append_left _ _⟩
      · obtain ⟨there, subset⟩ := ih inRest
        exact ⟨there, List.subset_append_of_subset_right _ subset⟩

theorem height_le_of_places {limit : Int} {root : StoredFunction σ κ}
    (shallow : ∀ place ∈ root.places header vocabulary depth start, place.depth ≤ limit) :
    depth + root.height ≤ limit := by
  induction root using nested_induction generalizing depth start with
  | node body functions ih =>
      rw [places, List.forall_mem_cons] at shallow
      obtain ⟨atRoot, below⟩ := shallow
      have low : heightAll functions ≤ (limit - depth).toNat := by
        rw [heightAll_le]
        intro function member
        obtain ⟨there, subset⟩ := exists_places_subset member
        have lowNested := ih function member fun place inside => below place (subset inside)
        omega
      rw [height]
      dsimp only at atRoot
      omega

theorem height_le_of_placesAll {limit : Int} {functions : List (StoredFunction σ κ)}
    (shallow : ∀ place ∈ placesAll header vocabulary depth start functions, place.depth ≤ limit) :
    ∀ function ∈ functions, depth + function.height ≤ limit := by
  intro function member
  obtain ⟨there, subset⟩ := exists_places_subset member
  exact height_le_of_places fun place inside => shallow place (subset inside)

/-! ## Order -/

mutual

/-- The places are in the order in which the decoded tree is walked. -/
theorem map_meaning_places (options : Options) (depth : Int) (start : Nat) :
    ∀ root : StoredFunction σ κ,
      (root.places header vocabulary depth start).map
        (fun place => place.function.meaning vocabulary options) =
        (root.meaning vocabulary options).walk
  | ⟨body, functions⟩ => by
      rw [places, List.map_cons, map_meaning_placesAll options _ _ functions, meaning,
        Prototype.walk]

theorem map_meaning_placesAll (options : Options) (depth : Int) (start : Nat) :
    ∀ functions : List (StoredFunction σ κ),
      (placesAll header vocabulary depth start functions).map
        (fun place => place.function.meaning vocabulary options) =
        Prototype.walkAll (meaningAll vocabulary options functions)
  | [] => rfl
  | first :: rest => by
      rw [placesAll, List.map_append, map_meaning_places options _ _ first,
        map_meaning_placesAll options _ _ rest, meaningAll, Prototype.walkAll]

end

end StoredFunction

end LuaBytecode
