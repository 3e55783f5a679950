import LuaBytecode.Proofs.JsonGrammar
import Mathlib.Tactic.IntervalCases

/-!
# Strings in JSON texts

Every character is written in ASCII, and the units that are read back are its UTF-16 units. Since a
character is no surrogate, its units are never taken for part of another character.
-/

set_option autoImplicit false

namespace LuaBytecode

/-! ## Hexadecimal digits -/

theorem Text.hexDigits_one {number : Nat} (small : number < 16) :
    hexDigits 1 number = [Nat.digitChar number] := by
  simp [hexDigits, Nat.toDigits_of_lt_base small]

theorem Text.hexDigits_succ (width number : Nat) :
    hexDigits (width + 2) number =
      hexDigits (width + 1) (number / 16) ++ [Nat.digitChar (number % 16)] := by
  by_cases small : number < 16
  · have shifted : number / 16 = 0 := by omega
    simp [hexDigits, Nat.toDigits_of_lt_base small, shifted, Nat.mod_eq_of_lt small,
      List.replicate_succ', Nat.toDigits_zero]
  · rw [hexDigits, hexDigits, Nat.toDigits_of_base_le (by decide) (by omega), List.length_append,
      List.length_singleton, List.append_assoc, Nat.succ_sub_succ]

theorem Text.hexDigits_four {unit : Nat} (fits : unit < 0x10000) :
    hexDigits 4 unit = [Nat.digitChar (unit / 16 / 16 / 16), Nat.digitChar (unit / 16 / 16 % 16),
      Nat.digitChar (unit / 16 % 16), Nat.digitChar (unit % 16)] := by
  rw [hexDigits_succ, hexDigits_succ, hexDigits_succ, hexDigits_one (by omega)]
  rfl

namespace JsonReading

theorem hexValue?_digitChar {digit : Nat} (small : digit < 16) :
    hexValue? (Nat.digitChar digit) = some digit := by
  interval_cases digit <;> rfl

theorem stringUnits_escapedUnit {unit : Nat} (fits : unit < 0x10000) (rest : List Char) :
    stringUnits (Json.escapedUnit unit ++ rest) =
      (stringUnits rest).map fun (units, after) => (unit :: units, after) := by
  have same : ((unit / 16 / 16 / 16 * 16 + unit / 16 / 16 % 16) * 16 + unit / 16 % 16) * 16
      + unit % 16 = unit := by omega
  rw [Json.escapedUnit, Text.hexDigits_four fits]
  simp only [List.cons_append, List.nil_append, stringUnits, unit?]
  rw [hexValue?_digitChar (by omega), hexValue?_digitChar (by omega),
    hexValue?_digitChar (by omega), hexValue?_digitChar (by omega)]
  simp only [Option.bind_eq_bind, Option.bind_some, same]
  cases stringUnits rest <;> rfl

/-! ## Characters -/

theorem toNat_isScalar (char : Char) :
    char.toNat < 0xd800 ∨ 0xdfff < char.toNat ∧ char.toNat < 0x110000 :=
  char.valid

theorem utf16Units_lt {char : Char} : ∀ unit ∈ Text.utf16Units char, unit < 0x10000 := by
  have scalar := toNat_isScalar char
  intro unit member
  simp only [Text.utf16Units] at member
  split at member
  · simp only [List.mem_cons, List.not_mem_nil, or_false] at member
    omega
  · simp only [List.mem_cons, List.not_mem_nil, or_false] at member
    omega

theorem stringUnits_flatMap_escapedUnit {units : List Nat} (fit : ∀ unit ∈ units, unit < 0x10000)
    (rest : List Char) :
    stringUnits (units.flatMap Json.escapedUnit ++ rest) =
      (stringUnits rest).map fun (others, after) => (units ++ others, after) := by
  induction units with
  | nil => simp
  | cons unit units ih =>
      obtain ⟨fits, othersFit⟩ := List.forall_mem_cons.mp fit
      rw [List.flatMap_cons, List.append_assoc, stringUnits_escapedUnit fits, ih othersFit,
        Option.map_map]
      rfl

theorem stringUnits_mark {mark : Char} {code : Nat} (known : escapedCode? mark = some code)
    (rest : List Char) :
    stringUnits ('\\' :: mark :: rest) =
      (stringUnits rest).map fun (units, after) => (code :: units, after) := by
  have noUnit : mark ≠ 'u' := by
    rintro rfl
    cases known
  rw [stringUnits.eq_4 _ _ (by simp [noUnit]), known]
  cases found : stringUnits rest <;> rfl

theorem stringUnits_stringChar (char : Char) (rest : List Char) :
    stringUnits (Json.stringChar char ++ rest) =
      (stringUnits rest).map fun (units, after) => (Text.utf16Units char ++ units, after) := by
  simp only [Json.stringChar]
  split_ifs with quote backslash newline carriage tab feed back plain
  · subst quote
    exact stringUnits_mark rfl rest
  · subst backslash
    exact stringUnits_mark rfl rest
  · subst newline
    exact stringUnits_mark rfl rest
  · subst carriage
    exact stringUnits_mark rfl rest
  · subst tab
    exact stringUnits_mark rfl rest
  · rw [Text.utf16Units, feed]
    exact stringUnits_mark rfl rest
  · rw [Text.utf16Units, back]
    exact stringUnits_mark rfl rest
  · have visible : ¬char.toNat < 0x20 := by omega
    rw [List.singleton_append, stringUnits.eq_5 _ _ quote (by simp [backslash])
      (by simp [backslash]), if_neg visible]
    cases found : stringUnits rest <;> rfl
  · exact stringUnits_flatMap_escapedUnit utf16Units_lt rest

/-- A character is written with a backslash and a mark, as itself, or by its units. -/
theorem stringChar_cases (char : Char) :
    (∃ mark, Json.stringChar char = ['\\', mark] ∧ mark.toNat < 0x80) ∨
      (Json.stringChar char = [char] ∧ char ≠ '"' ∧ char ≠ '\\' ∧ char.toNat < 0x80) ∨
      Json.stringChar char = (Text.utf16Units char).flatMap Json.escapedUnit := by
  simp only [Json.stringChar]
  split_ifs with quote backslash newline carriage tab feed back plain
  · exact .inl ⟨'"', rfl, by decide⟩
  · exact .inl ⟨'\\', rfl, by decide⟩
  · exact .inl ⟨'n', rfl, by decide⟩
  · exact .inl ⟨'r', rfl, by decide⟩
  · exact .inl ⟨'t', rfl, by decide⟩
  · exact .inl ⟨'f', rfl, by decide⟩
  · exact .inl ⟨'b', rfl, by decide⟩
  · exact .inr (.inl ⟨rfl, quote, backslash, by omega⟩)
  · exact .inr (.inr rfl)

theorem charsOfUnits_utf16Units (char : Char) (units : List Nat) :
    charsOfUnits (Text.utf16Units char ++ units) = (charsOfUnits units).map (char :: ·) := by
  have scalar := toNat_isScalar char
  simp only [Text.utf16Units]
  split
  next small =>
    rw [List.singleton_append, charsOfUnits.eq_def]
    simp only
    rw [if_neg (by omega), if_neg (by omega), Char.ofNat_toNat]
  next large =>
    have joined : 0x10000 + (0xd800 + (char.toNat - 0x10000) / 0x400 - 0xd800) * 0x400
        + (0xdc00 + (char.toNat - 0x10000) % 0x400 - 0xdc00) = char.toNat := by omega
    rw [List.cons_append, List.singleton_append, charsOfUnits.eq_def]
    simp only
    rw [if_pos (by omega), if_pos (by omega), joined, Char.ofNat_toNat]

/-! ## Strings -/

theorem stringUnits_flatMap_stringChar (chars rest : List Char) :
    stringUnits (chars.flatMap Json.stringChar ++ '"' :: rest) =
      some (chars.flatMap Text.utf16Units, rest) := by
  induction chars with
  | nil => rfl
  | cons char chars ih =>
      rw [List.flatMap_cons, List.append_assoc, stringUnits_stringChar, ih]
      rfl

theorem charsOfUnits_flatMap_utf16Units (chars : List Char) :
    charsOfUnits (chars.flatMap Text.utf16Units) = some chars := by
  induction chars with
  | nil => rfl
  | cons char chars ih => rw [List.flatMap_cons, charsOfUnits_utf16Units, ih, Option.map_some]

/-- A string is read back as the text that it was written for. -/
theorem string_stringChars (written : String) (rest : List Char) :
    string (written.toList.flatMap Json.stringChar ++ '"' :: rest) = some (written, rest) := by
  rw [string, stringUnits_flatMap_stringChar]
  simp only [Option.bind_eq_bind, Option.bind_some, charsOfUnits_flatMap_utf16Units,
    String.ofList_toList]
  rfl

end JsonReading

end LuaBytecode
