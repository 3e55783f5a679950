import LuaBytecode.Proofs.PathText

/-!
# Default outputs

The default output of an input lies beside it. Its name is that of the input with the new suffix in
place of the suffix of compiled files, or after the whole name if the input does not have that
suffix. A name that is nothing but the suffix counts as a name without one.
-/

set_option autoImplicit false

namespace LuaBytecode.Path

/-! ## Suffixes -/

/-- A name is split before its last dot, where that has something on both sides. -/
theorem splitSuffix?_eq_some {name stem ending : List Char} :
    splitSuffix? name = some (stem, ending) ↔
      ∃ word, ending = '.' :: word ∧ name = stem ++ '.' :: word ∧ stem ≠ [] ∧ word ≠ [] ∧
        '.' ∉ word := by
  constructor
  · intro found
    simp only [splitSuffix?] at found
    split at found
    next char reversedStem cut =>
      have isDot : char = '.' := by
        have stopped := List.head?_dropWhile_not (· != '.') name.reverse
        rw [cut] at stopped
        simpa using stopped
      have whole : name.reverse = name.reverse.takeWhile (· != '.') ++ '.' :: reversedStem := by
        conv_lhs => rw [← List.takeWhile_append_dropWhile (p := (· != '.')) (l := name.reverse)]
        rw [cut, isDot]
      split_ifs at found with nothing
      obtain ⟨someWord, someStem⟩ := not_or.mp nothing
      cases found
      refine ⟨_, rfl, ?_, by simpa using someStem, by simpa using someWord, ?_⟩
      · have back := congrArg List.reverse whole
        simpa using back
      · intro member
        have beforeDot := List.all_eq_true.mp List.all_takeWhile '.' (List.mem_reverse.mp member)
        simp at beforeDot
    next => cases found
  · rintro ⟨word, rfl, rfl, someStem, someWord, noDot⟩
    have plain : ∀ char ∈ word.reverse, (char != '.') = true := by
      intro char member
      simp only [bne_iff_ne]
      rintro rfl
      exact noDot (List.mem_reverse.mp member)
    have reversed : (stem ++ '.' :: word).reverse = word.reverse ++ '.' :: stem.reverse := by simp
    have taken : (word.reverse ++ '.' :: stem.reverse).takeWhile (· != '.') = word.reverse := by
      rw [List.takeWhile_append_of_pos plain]
      simp
    have dropped : (word.reverse ++ '.' :: stem.reverse).dropWhile (· != '.') =
        '.' :: stem.reverse := by
      rw [List.dropWhile_append_of_pos plain]
      simp
    simp [splitSuffix?, reversed, taken, dropped, someStem, someWord]

variable {path : Path} {stem suffix : String}

theorem splitSuffix?_compiled (nonempty : stem ≠ "") :
    splitSuffix? (stem ++ bytecodeSuffix).toList = some (stem.toList, bytecodeSuffix.toList) := by
  refine splitSuffix?_eq_some.mpr ⟨"luac".toList, rfl, ?_, by simpa using nonempty, by decide,
    by decide⟩
  rw [String.toList_append]
  rfl

theorem suffix_eq_bytecodeSuffix :
    path.suffix = bytecodeSuffix ↔ ∃ stem, stem ≠ "" ∧ path.name = stem ++ bytecodeSuffix := by
  rw [Path.suffix]
  constructor
  · intro compiled
    split at compiled
    next stem ending cut =>
      obtain ⟨word, rfl, whole, nonempty, -⟩ := splitSuffix?_eq_some.mp cut
      refine ⟨String.ofList stem, by simpa using nonempty, ?_⟩
      rw [← compiled, ← String.ofList_append, ← whole, String.ofList_toList]
    next => exact absurd compiled (by decide)
  · rintro ⟨stem, nonempty, named⟩
    rw [named, splitSuffix?_compiled nonempty]
    exact String.ofList_toList

/-! ## Names of outputs -/

theorem outputFor_compiled (nonempty : stem ≠ "") (named : path.name = stem ++ bytecodeSuffix)
    (known : isSuffix suffix.toList) :
    path.outputFor suffix = .ok (path.replaceName (stem ++ suffix)) := by
  have hasName : path.name ≠ "" := by
    rw [named]
    intro empty
    exact nonempty (String.append_eq_empty_iff.mp empty).1
  rw [outputFor, if_pos (suffix_eq_bytecodeSuffix.mpr ⟨stem, nonempty, named⟩), withSuffix,
    if_neg (by simpa using known), if_neg hasName, named, splitSuffix?_compiled nonempty]
  simp

private theorem isName_of_plain {name : List Char} (plain : '/' ∉ name) (long : 1 < name.length) :
    isName name = true := by
  have first : name.head? ≠ some '/' := fun isSlash => plain (List.mem_of_mem_head? isSlash)
  have last : name.getLast? ≠ some '/' := fun isSlash => plain (List.mem_of_getLast? isSlash)
  have notEmpty : name ≠ [] := by
    rintro rfl
    simp at long
  have notDot : name ≠ ['.'] := by
    rintro rfl
    simp at long
  simp [isName, first, last, realPieces, pieces_of_plain plain, notEmpty, notDot]

theorem outputFor_other (nonempty : path.name ≠ "") (plain : '/' ∉ (path.name ++ suffix).toList)
    (long : 1 < suffix.toList.length)
    (other : ¬ ∃ stem, stem ≠ "" ∧ path.name = stem ++ bytecodeSuffix) :
    path.outputFor suffix = .ok (path.replaceName (path.name ++ suffix)) := by
  have isNameOk : isName (path.name ++ suffix).toList = true := by
    refine isName_of_plain plain ?_
    rw [String.toList_append, List.length_append]
    omega
  rw [outputFor, if_neg (mt suffix_eq_bytecodeSuffix.mp other), withName, if_neg nonempty,
    if_pos isNameOk]

/-- What is kept of the name is all but the suffix of compiled files, or the whole name if that does
not end in the suffix or is the suffix itself. -/
theorem outputFor_kept (clean : path.IsClean) (named : path.parts ≠ [])
    (known : suffix = ".txt" ∨ suffix = ".json") :
    ∃ kept, path.outputFor suffix = .ok (path.replaceName (kept ++ suffix)) ∧ kept ≠ "" ∧
      kept ++ suffix ≠ path.name ∧ '/' ∉ (kept ++ suffix).toList ∧
      (path.name = kept ++ bytecodeSuffix ∨
        kept = path.name ∧ ¬ ∃ stem, stem ≠ "" ∧ path.name = stem ++ bytecodeSuffix) := by
  obtain ⟨nonempty, plain⟩ := clean path.name (List.mem_of_getLast? (getLast?_parts named))
  have suffixPlain : '/' ∉ suffix.toList := by rcases known with rfl | rfl <;> decide
  have plainAfter {kept : String} (keptPlain : '/' ∉ kept.toList) :
      '/' ∉ (kept ++ suffix).toList := by
    rw [String.toList_append, List.mem_append, not_or]
    exact ⟨keptPlain, suffixPlain⟩
  by_cases compiled : ∃ stem, stem ≠ "" ∧ path.name = stem ++ bytecodeSuffix
  · obtain ⟨stem, someStem, whole⟩ := compiled
    have isSuffixOk : isSuffix suffix.toList = true := by rcases known with rfl | rfl <;> decide
    refine ⟨stem, outputFor_compiled someStem whole isSuffixOk, someStem, ?_, plainAfter ?_,
      .inl whole⟩
    · rw [whole, Ne, String.append_right_inj]
      rcases known with rfl | rfl <;> decide
    · rw [whole, String.toList_append, List.mem_append, not_or] at plain
      exact plain.1
  · have long : 1 < suffix.toList.length := by rcases known with rfl | rfl <;> decide
    refine ⟨path.name, outputFor_other nonempty (plainAfter plain) long compiled, nonempty, ?_,
      plainAfter plain, .inr ⟨rfl, compiled⟩⟩
    rw [Ne, String.append_eq_left_iff]
    rcases known with rfl | rfl <;> decide

/-- The default output lies beside the input, under another name. -/
theorem outputFor_eq (clean : path.IsClean) (named : path.parts ≠ [])
    (known : suffix = ".txt" ∨ suffix = ".json") :
    ∃ name, path.outputFor suffix = .ok (path.replaceName name) ∧ name ≠ path.name ∧
      name ≠ "" ∧ '/' ∉ name.toList := by
  obtain ⟨kept, isOutput, nonempty, different, plain, -⟩ := outputFor_kept clean named known
  refine ⟨kept ++ suffix, isOutput, different, fun empty => ?_, plain⟩
  exact nonempty (String.append_eq_empty_iff.mp empty).1

/-- A path in normal form is written differently under another name. -/
theorem text_replaceName_ne (clean : path.IsClean) (named : path.parts ≠ []) {name : String}
    (nonempty : name ≠ "") (plain : '/' ∉ name.toList) (different : name ≠ path.name) :
    (path.replaceName name).text ≠ path.text := by
  intro sameText
  have renamed : (path.replaceName name).parts ≠ [] := by simp [replaceName]
  have sameParts := congrArg Store.steps sameText
  rw [steps_text (isClean_replaceName clean nonempty plain) renamed,
    steps_text clean named] at sameParts
  have sameName : (path.replaceName name).name = path.name := by
    rw [Path.name, Path.name, sameParts]
  exact different ((name_replaceName path name).symm.trans sameName)

/-- A path with a name always has a default output. It lies in the same place as the path and is not
the path itself, whatever the name. -/
theorem outputFor_beside {text suffix : String} (named : (ofText text).name ≠ "")
    (known : suffix = ".json" ∨ suffix = ".txt") :
    ∃ output, (ofText text).outputFor suffix = .ok output ∧
      output.root = (ofText text).root ∧
      output.parts.dropLast = (ofText text).parts.dropLast ∧
      (∀ stem, (ofText text).name = stem ++ ".luac" → (ofText text).name ≠ ".luac" →
        output.name = stem ++ suffix) ∧
      ((¬ ∃ stem, (ofText text).name = stem ++ ".luac") ∨ (ofText text).name = ".luac" →
        output.name = (ofText text).name ++ suffix) ∧
      output ≠ ofText text ∧ output.text ≠ (ofText text).text := by
  have clean := isClean_ofText text
  generalize ofText text = path at *
  have someParts : path.parts ≠ [] := by
    intro none
    exact named (by rw [Path.name, none]; rfl)
  obtain ⟨kept, isOutput, someKept, different, plain, source⟩ :=
    outputFor_kept clean someParts known.symm
  have isName := name_replaceName path (kept ++ suffix)
  have nonempty : kept ++ suffix ≠ "" := fun empty =>
    someKept (String.append_eq_empty_iff.mp empty).1
  have otherText := text_replaceName_ne clean someParts nonempty plain different
  refine ⟨path.replaceName (kept ++ suffix), isOutput, rfl, by simp [replaceName], ?_, ?_,
    fun same => otherText (congrArg Path.text same), otherText⟩
  · intro stem whole notSuffix
    have someStem : stem ≠ "" := by
      rintro rfl
      exact notSuffix (by rw [whole, String.empty_append])
    rcases source with keptWhole | ⟨-, noStem⟩
    · have sameStem : stem ++ ".luac" = kept ++ ".luac" := whole.symm.trans keptWhole
      rw [isName, (String.append_left_inj _).mp sameStem]
    · exact absurd ⟨stem, someStem, whole⟩ noStem
  · intro whole
    rcases source with keptWhole | ⟨rfl, -⟩
    · rcases whole with noStem | isSuffix
      · exact absurd ⟨kept, keptWhole⟩ noStem
      · have onlySuffix : kept ++ ".luac" = ".luac" := keptWhole.symm.trans isSuffix
        exact absurd (String.append_eq_right_iff.mp onlySuffix) someKept
    · exact isName

/-- The name has a dot before the suffix, so its suffix is replaced; nothing but the suffix is left
as it is. -/
theorem outputFor_beside_dottedNames :
    (∃ output, (ofText "/a//b/..luac").outputFor ".json" = .ok output ∧
      output.root = .slash ∧ output.parts.dropLast = ["a", "b"] ∧ output.name = "..json") ∧
    ∃ output, (ofText ".luac/").outputFor ".txt" = .ok output ∧ output.root = .none ∧
      output.parts.dropLast = [] ∧ output.name = ".luac.txt" ∧ output ≠ ofText ".luac/" := by
  have dotted : (ofText "/a//b/..luac").name = "." ++ ".luac" := by decide
  have bare : (ofText ".luac/").name = ".luac" := by decide
  constructor
  · obtain ⟨output, found, root, place, compiled, -⟩ :=
      @outputFor_beside "/a//b/..luac" ".json" (by decide) (.inl rfl)
    exact ⟨output, found, root, place, compiled "." dotted (by decide)⟩
  · obtain ⟨output, found, root, place, -, other, different, -⟩ :=
      @outputFor_beside ".luac/" ".txt" (by decide) (.inr rfl)
    refine ⟨output, found, root, place, ?_, different⟩
    rw [other (.inr bare), bare]
    rfl

end LuaBytecode.Path
