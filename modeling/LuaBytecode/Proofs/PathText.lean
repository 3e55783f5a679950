import LuaBytecode.Proofs.WriteEffect

/-!
# Paths in normal form

The parts of a path that came from a text have no slashes and are not empty, so the system walks the
text of the path by just these parts. Such a path stays one of this kind under another name.
-/

set_option autoImplicit false

namespace LuaBytecode

namespace Path

/-! ## Pieces -/

theorem slash_notMem_pieces (chars : List Char) : ∀ piece ∈ pieces chars, '/' ∉ piece := by
  induction chars with
  | nil => simp [pieces]
  | cons char rest ih =>
      rw [pieces]
      split
      next => exact List.forall_mem_cons.mpr ⟨by simp, ih⟩
      next other =>
        split
        next => simpa using Ne.symm other
        next first others cut =>
          rw [cut] at ih
          obtain ⟨firstPlain, othersPlain⟩ := List.forall_mem_cons.mp ih
          refine List.forall_mem_cons.mpr ⟨?_, othersPlain⟩
          simp only [List.mem_cons, not_or]
          exact ⟨Ne.symm other, firstPlain⟩

theorem pieces_of_plain {chars : List Char} (plain : '/' ∉ chars) : pieces chars = [chars] := by
  induction chars with
  | nil => rfl
  | cons char rest ih =>
      obtain ⟨other, restPlain⟩ := not_or.mp (List.mem_cons.not.mp plain)
      rw [pieces, if_neg (Ne.symm other), ih restPlain]

theorem pieces_append_slash {first : List Char} (plain : '/' ∉ first) (rest : List Char) :
    pieces (first ++ '/' :: rest) = first :: pieces rest := by
  induction first with
  | nil => rfl
  | cons char first ih =>
      obtain ⟨other, firstPlain⟩ := not_or.mp (List.mem_cons.not.mp plain)
      rw [List.cons_append, pieces, if_neg (Ne.symm other), ih firstPlain]

theorem pieces_intercalate {parts : List (List Char)} (nonempty : parts ≠ [])
    (plain : ∀ part ∈ parts, '/' ∉ part) : pieces (['/'].intercalate parts) = parts := by
  induction parts with
  | nil => exact absurd rfl nonempty
  | cons first rest ih =>
      obtain ⟨firstPlain, restPlain⟩ := List.forall_mem_cons.mp plain
      cases rest with
      | nil => simpa using pieces_of_plain firstPlain
      | cons second others =>
          have split : ['/'].intercalate (first :: second :: others) =
              first ++ '/' :: ['/'].intercalate (second :: others) := by
            simp [List.intercalate, List.intersperse]
          rw [split, pieces_append_slash firstPlain, ih (by simp) restPlain]

/-! ## Parts -/

/-- The parts can be told apart in the text of the path. -/
def IsClean (path : Path) : Prop :=
  ∀ part ∈ path.parts, part ≠ "" ∧ '/' ∉ part.toList

theorem isClean_ofText (text : String) : (ofText text).IsClean := by
  intro part member
  obtain ⟨piece, inPieces, rfl⟩ := List.mem_map.mp member
  obtain ⟨inAll, real⟩ := List.mem_filter.mp inPieces
  refine ⟨?_, by simpa using slash_notMem_pieces _ piece inAll⟩
  intro empty
  have noChars : piece = [] := by simpa using congrArg String.toList empty
  simp [noChars] at real

private theorem pieces_root (root : PathRoot) (chars : List Char) :
    (pieces (root.text.toList ++ chars)).filter (· != []) =
      (pieces chars).filter (· != []) := by
  cases root with
  | none => rfl
  | slash =>
      show (pieces ('/' :: chars)).filter (· != []) = _
      rw [pieces, if_pos rfl, List.filter_cons_of_neg (by simp)]
  | doubleSlash =>
      show (pieces ('/' :: '/' :: chars)).filter (· != []) = _
      rw [pieces, if_pos rfl, pieces, if_pos rfl, List.filter_cons_of_neg (by simp),
        List.filter_cons_of_neg (by simp)]

/-- The system walks the text of a path by its parts. -/
theorem steps_text {path : Path} (clean : path.IsClean) (nonempty : path.parts ≠ []) :
    Store.steps path.text = path.parts := by
  have solid : ∀ part ∈ path.parts.map String.toList, part ≠ [] ∧ '/' ∉ part := by
    intro part member
    obtain ⟨word, inParts, rfl⟩ := List.mem_map.mp member
    obtain ⟨notEmpty, plain⟩ := clean word inParts
    exact ⟨by simpa using notEmpty, plain⟩
  have cut : pieces (['/'].intercalate (path.parts.map String.toList)) =
      path.parts.map String.toList :=
    pieces_intercalate (by simpa using nonempty) fun part member => (solid part member).2
  have kept : (path.parts.map String.toList).filter (· != []) = path.parts.map String.toList :=
    List.filter_eq_self.mpr fun part member => by simpa using (solid part member).1
  have written : path.text.toList =
      path.root.text.toList ++ ['/'].intercalate (path.parts.map String.toList) := by
    rw [text, if_neg, String.toList_append, String.toList_intercalate]
    · rfl
    · intro empty
      have noChars := congrArg String.toList empty
      rw [String.toList_append, String.toList_intercalate] at noChars
      have noParts := (List.append_eq_nil_iff.mp noChars).2
      rw [show "/".toList = ['/'] from rfl] at noParts
      rw [noParts] at cut
      exact (solid [] (by rw [← cut]; exact List.mem_singleton_self _)).1 rfl
  rw [Store.steps, written, pieces_root, cut, kept, List.map_map]
  simp

theorem getLast?_parts {path : Path} (nonempty : path.parts ≠ []) :
    path.parts.getLast? = some path.name := by
  rw [name, List.getLast?_eq_some_getLast nonempty, Option.getD_some]

/-- A path without parts leads to a directory. -/
theorem parts_ne_nil {store : Store} {path : Path} {location : Location} {content : Bytes}
    (found : store.locate path.text = .ok (location, .file content)) : path.parts ≠ [] := by
  obtain ⟨directory, name, walked, -⟩ := Store.locate_eq_file found
  obtain ⟨last, notDot⟩ := Store.walk_name walked
  obtain ⟨root, parts⟩ := path
  rintro rfl
  have noName : (Store.steps (Path.text ⟨root, []⟩)).getLast? = some "." ∨
      (Store.steps (Path.text ⟨root, []⟩)).getLast? = none := by
    cases root <;> decide
  rcases noName with isDot | none
  · rw [isDot] at last
    exact notDot (Option.some.inj last).symm
  · rw [none] at last
    cases last

theorem isClean_replaceName {path : Path} (clean : path.IsClean) {name : String}
    (notEmpty : name ≠ "") (plain : '/' ∉ name.toList) : (path.replaceName name).IsClean := by
  intro part member
  rcases List.mem_append.mp member with old | new
  · exact clean part (List.dropLast_subset _ old)
  · rw [List.mem_singleton.mp new]
    exact ⟨notEmpty, plain⟩

@[simp] theorem name_replaceName (path : Path) (name : String) :
    (path.replaceName name).name = name := by
  simp [Path.name, replaceName]

end Path

end LuaBytecode
