import LuaBytecode.Proofs.JsonText

/-!
# Layout of JSON texts

An indented text and a compact text of one value differ in white space between tokens only, and
both consist of ASCII characters. The two texts are compared piece by piece; strings are pieces of
their own, as they may hold what would be white space or a token elsewhere.
-/

set_option autoImplicit false

namespace LuaBytecode

namespace JsonReading

/-- A text without the white space that stands outside its string literals, where `quoted` tells
whether the text starts inside one. -/
def withoutBlanks : (quoted : Bool) → List Char → List Char
  | _, [] => []
  | true, '\\' :: escaped :: rest => '\\' :: escaped :: withoutBlanks true rest
  | true, char :: rest => char :: withoutBlanks (char != '"') rest
  | false, char :: rest =>
    if isBlank char then withoutBlanks false rest
    else char :: withoutBlanks (char == '"') rest

/-- The characters between tokens that are no white space. -/
def isPunctuation (char : Char) : Bool :=
  char == '[' || char == ']' || char == '\x7b' || char == '\x7d' || char == ',' || char == ':'

/-- The first text is the second one with white space between its pieces. -/
inductive Spaced : List Char → List Char → Prop where
  | nil : Spaced [] []
  | blank {char : Char} {text compact : List Char} (isBlank : isBlank char = true)
      (rest : Spaced text compact) : Spaced (char :: text) compact
  | solid {char : Char} {text compact : List Char}
      (isSolid : isTokenChar char = true ∨ isPunctuation char = true)
      (rest : Spaced text compact) : Spaced (char :: text) (char :: compact)
  | string (written : String) {text compact : List Char} (rest : Spaced text compact) :
      Spaced (Json.stringChars written ++ text) (Json.stringChars written ++ compact)

namespace Spaced

theorem append {first firstCompact second secondCompact : List Char}
    (left : Spaced first firstCompact) (right : Spaced second secondCompact) :
    Spaced (first ++ second) (firstCompact ++ secondCompact) := by
  induction left with
  | nil => exact right
  | blank isBlank _ ih => exact .blank isBlank ih
  | solid isSolid _ ih => exact .solid isSolid ih
  | string written _ ih =>
      rw [List.append_assoc, List.append_assoc]
      exact .string written ih

theorem of_blanks {blanks : List Char} (blank : ∀ char ∈ blanks, isBlank char = true) :
    Spaced blanks [] := by
  induction blanks with
  | nil => exact .nil
  | cons char blanks ih =>
      obtain ⟨isBlank, others⟩ := List.forall_mem_cons.mp blank
      exact .blank isBlank (ih others)

theorem of_token {token : List Char} (isToken : ∀ char ∈ token, isTokenChar char = true) :
    Spaced token token := by
  induction token with
  | nil => exact .nil
  | cons char token ih =>
      obtain ⟨isTokenFirst, others⟩ := List.forall_mem_cons.mp isToken
      exact .solid (.inl isTokenFirst) (ih others)

theorem of_punctuation {char : Char} (punctuation : isPunctuation char = true) :
    Spaced [char] [char] :=
  .solid (.inr punctuation) .nil

end Spaced

/-! ## ASCII -/

theorem isBlank_ascii {char : Char} (blank : isBlank char = true) : char.toNat < 0x80 := by
  simp only [isBlank, Bool.or_eq_true, beq_iff_eq] at blank
  rcases blank with ((rfl | rfl) | rfl) | rfl <;> decide

theorem isPunctuation_ascii {char : Char} (punctuation : isPunctuation char = true) :
    char.toNat < 0x80 := by
  simp only [isPunctuation, Bool.or_eq_true, beq_iff_eq] at punctuation
  rcases punctuation with ((((rfl | rfl) | rfl) | rfl) | rfl) | rfl <;> decide

theorem isTokenChar_ascii {char : Char} (isToken : isTokenChar char = true) :
    char.toNat < 0x80 := by
  simp only [isTokenChar, Bool.or_eq_true, beq_iff_eq] at isToken
  rcases isToken with ((isAlphanum | rfl) | rfl) | rfl
  · have ranges : (decide (char.val ≥ 'A'.val ∧ char.val ≤ 'Z'.val) ||
        char.val ≥ 'a'.val && char.val ≤ 'z'.val ||
        char.val ≥ '0'.val && char.val ≤ '9'.val) = true := isAlphanum
    simp only [Bool.or_eq_true, Bool.and_eq_true, decide_eq_true_eq, ge_iff_le,
      UInt32.le_iff_toNat_le] at ranges
    rcases ranges with (⟨-, high⟩ | ⟨-, high⟩) | ⟨-, high⟩ <;>
      exact Nat.lt_of_le_of_lt high (by decide)
  · decide
  · decide
  · decide

private theorem hexDigit_plain {digit : Nat} (small : digit < 16) :
    (Nat.digitChar digit).toNat < 0x80 ∧ Nat.digitChar digit ≠ '"' ∧
      Nat.digitChar digit ≠ '\\' := by
  interval_cases digit <;> decide

/-- Hexadecimal digits neither end a string nor start an escape. -/
theorem hexDigits_plain {unit : Nat} (fits : unit < 0x10000) :
    ∀ char ∈ Text.hexDigits 4 unit, char.toNat < 0x80 ∧ char ≠ '"' ∧ char ≠ '\\' := by
  rw [Text.hexDigits_four fits]
  simp only [List.forall_mem_cons]
  exact ⟨hexDigit_plain (by omega), hexDigit_plain (by omega), hexDigit_plain (by omega),
    hexDigit_plain (by omega), by simp⟩

theorem escapedUnit_ascii {unit : Nat} (fits : unit < 0x10000) :
    ∀ char ∈ Json.escapedUnit unit, char.toNat < 0x80 := by
  rw [Json.escapedUnit, List.forall_mem_cons, List.forall_mem_cons]
  exact ⟨by decide, by decide, fun char member => (hexDigits_plain fits char member).1⟩

theorem stringChar_ascii (char : Char) :
    ∀ written ∈ Json.stringChar char, written.toNat < 0x80 := by
  rcases stringChar_cases char with ⟨mark, written, ascii⟩ | ⟨written, -, -, ascii⟩ | written
  · rw [written, List.forall_mem_cons, List.forall_mem_singleton]
    exact ⟨by decide, ascii⟩
  · rw [written, List.forall_mem_singleton]
    exact ascii
  · rw [written]
    intro char member
    obtain ⟨unit, inUnits, inEscaped⟩ := List.mem_flatMap.mp member
    exact escapedUnit_ascii (utf16Units_lt unit inUnits) char inEscaped

theorem stringChars_ascii (written : String) :
    ∀ char ∈ Json.stringChars written, char.toNat < 0x80 := by
  rw [Json.stringChars, List.forall_mem_cons, List.forall_mem_append]
  refine ⟨by decide, ?_, by simp⟩
  intro char member
  obtain ⟨source, -, inWritten⟩ := List.mem_flatMap.mp member
  exact stringChar_ascii source char inWritten

theorem Spaced.ascii {text compact : List Char} (spaced : Spaced text compact) :
    ∀ char ∈ text, char.toNat < 0x80 := by
  induction spaced with
  | nil => simp
  | blank isBlank _ ih => exact List.forall_mem_cons.mpr ⟨isBlank_ascii isBlank, ih⟩
  | solid isSolid _ ih =>
      refine List.forall_mem_cons.mpr ⟨?_, ih⟩
      rcases isSolid with isToken | punctuation
      · exact isTokenChar_ascii isToken
      · exact isPunctuation_ascii punctuation
  | string written _ ih => exact List.forall_mem_append.mpr ⟨stringChars_ascii written, ih⟩

/-! ## White space -/

theorem withoutBlanks_escaped (mark : Char) (rest : List Char) :
    withoutBlanks true ('\\' :: mark :: rest) = '\\' :: mark :: withoutBlanks true rest := by
  rw [withoutBlanks]

theorem withoutBlanks_plain {chars : List Char} (plain : ∀ char ∈ chars, char ≠ '"' ∧ char ≠ '\\')
    (rest : List Char) :
    withoutBlanks true (chars ++ rest) = chars ++ withoutBlanks true rest := by
  induction chars with
  | nil => rfl
  | cons char chars ih =>
      obtain ⟨⟨quote, backslash⟩, others⟩ := List.forall_mem_cons.mp plain
      have inside : (char != '"') = true := by simpa using quote
      rw [List.cons_append, withoutBlanks.eq_3 _ _ (by simp [backslash]), inside, ih others]
      rfl

theorem withoutBlanks_escapedUnit {unit : Nat} (fits : unit < 0x10000) (rest : List Char) :
    withoutBlanks true (Json.escapedUnit unit ++ rest) =
      Json.escapedUnit unit ++ withoutBlanks true rest := by
  rw [Json.escapedUnit, List.cons_append, List.cons_append, withoutBlanks_escaped,
    withoutBlanks_plain fun char member => (hexDigits_plain fits char member).2]
  rfl

theorem withoutBlanks_stringChar (char : Char) (rest : List Char) :
    withoutBlanks true (Json.stringChar char ++ rest) =
      Json.stringChar char ++ withoutBlanks true rest := by
  rcases stringChar_cases char with ⟨mark, written, -⟩ | ⟨written, quote, backslash, -⟩ | written
  · rw [written]
    exact withoutBlanks_escaped mark rest
  · rw [written]
    exact withoutBlanks_plain (by simp [quote, backslash]) rest
  · rw [written]
    have fit : ∀ unit ∈ Text.utf16Units char, unit < 0x10000 := utf16Units_lt
    generalize Text.utf16Units char = units at fit
    induction units with
    | nil => rfl
    | cons unit units ih =>
        obtain ⟨fits, othersFit⟩ := List.forall_mem_cons.mp fit
        rw [List.flatMap_cons, List.append_assoc, withoutBlanks_escapedUnit fits, ih othersFit,
          List.append_assoc]

theorem withoutBlanks_stringChars (written : String) (rest : List Char) :
    withoutBlanks false (Json.stringChars written ++ rest) =
      Json.stringChars written ++ withoutBlanks false rest := by
  have inside (chars : List Char) :
      withoutBlanks true (chars.flatMap Json.stringChar ++ '"' :: rest) =
        chars.flatMap Json.stringChar ++ '"' :: withoutBlanks false rest := by
    induction chars with
    | nil => simp [withoutBlanks]
    | cons char chars ih =>
        rw [List.flatMap_cons, List.append_assoc, withoutBlanks_stringChar, ih, List.append_assoc]
  rw [Json.stringChars, List.cons_append, List.append_assoc, List.singleton_append, withoutBlanks,
    if_neg (by decide), beq_self_eq_true, inside]
  simp

private theorem outside_of_isSolid {char : Char}
    (isSolid : isTokenChar char = true ∨ isPunctuation char = true) :
    isBlank char = false ∧ (char == '"') = false := by
  rcases isSolid with isToken | punctuation
  · refine ⟨isBlank_of_isTokenChar isToken, ?_⟩
    rw [beq_eq_false_iff_ne]
    rintro rfl
    cases isToken
  · simp only [isPunctuation, Bool.or_eq_true, beq_iff_eq] at punctuation
    rcases punctuation with ((((rfl | rfl) | rfl) | rfl) | rfl) | rfl <;> decide

theorem Spaced.withoutBlanks_eq {text compact : List Char} (spaced : Spaced text compact) :
    withoutBlanks false text = compact := by
  induction spaced with
  | nil => rfl
  | blank isBlank _ ih => rw [withoutBlanks, if_pos isBlank, ih]
  | solid isSolid _ ih =>
      obtain ⟨solid, outside⟩ := outside_of_isSolid isSolid
      rw [withoutBlanks, if_neg (by simp [solid]), outside, ih]
  | string written _ ih => rw [withoutBlanks_stringChars, ih]

end JsonReading

/-! ## Texts -/

namespace Json

open JsonReading

section Layouts

variable {spacing : Spacing}

theorem spaced_stringChars (written : String) :
    Spaced (stringChars written) (stringChars written) := by
  simpa using Spaced.string written .nil

private theorem spaced_leaf {value : Json} {level : Nat} (leaf : IsLeaf spacing level value)
    (same : value.chars .compact level = value.chars spacing level) :
    Spaced (value.chars spacing level) (value.chars .compact level) := by
  rw [same]
  exact .of_token leaf.isToken.chars

variable (blank : spacing.IsBlank)
include blank

theorem spaced_colon : Spaced spacing.colon Spacing.compact.colon := by
  obtain ⟨blanks, colon, blankAfter⟩ := blank.colon
  rw [colon]
  exact .solid (.inr rfl) (.of_blanks blankAfter)

mutual

/-- A text and the compact text of the same value differ in white space only. -/
theorem spaced_chars : ∀ (value : Json) (level : Nat), value.IsFinite →
    Spaced (value.chars spacing level) (value.chars .compact level)
  | .null, level, finite =>
      spaced_leaf ((finite.isLeaf _ _).resolve_right (by simp)) (by rw [chars, chars])
  | .boolean value, level, finite =>
      spaced_leaf ((finite.isLeaf _ _).resolve_right (by simp))
        (by cases value <;> rw [chars, chars])
  | .integer value, level, finite =>
      spaced_leaf ((finite.isLeaf _ _).resolve_right (by simp)) (by rw [chars, chars])
  | .double value, level, finite =>
      spaced_leaf ((finite.isLeaf _ _).resolve_right (by simp)) (by rw [chars, chars])
  | .text value, level, _ => by
      rw [chars, chars]
      exact spaced_stringChars value
  | .array [], level, _ => by
      rw [chars, chars]
      exact .solid (.inr rfl) (.of_punctuation rfl)
  | .array (first :: others), level, .array finite => by
      obtain ⟨finiteFirst, finiteOthers⟩ := List.forall_mem_cons.mp finite
      have opening := Spaced.of_blanks (blank.beforeElement (level + 1))
      have closing := Spaced.of_blanks (blank.beforeElement level)
      rw [chars, chars]
      exact .solid (.inr rfl) ((((opening.append (spaced_chars first _ finiteFirst)).append
        (spaced_itemChars others _ finiteOthers)).append closing).append (.of_punctuation rfl))
  | .object [], level, _ => by
      rw [chars, chars]
      exact .solid (.inr rfl) (.of_punctuation rfl)
  | .object ((name, first) :: others), level, .object finite => by
      obtain ⟨finiteFirst, finiteOthers⟩ := List.forall_mem_cons.mp finite
      have opening := Spaced.of_blanks (blank.beforeElement (level + 1))
      have closing := Spaced.of_blanks (blank.beforeElement level)
      rw [chars, chars]
      exact .solid (.inr rfl) ((((((opening.append (spaced_stringChars name)).append
        (spaced_colon blank)).append (spaced_chars first _ finiteFirst)).append
        (spaced_memberChars others _ finiteOthers)).append closing).append (.of_punctuation rfl))

theorem spaced_itemChars : ∀ (items : List Json) (level : Nat), (∀ item ∈ items, item.IsFinite) →
    Spaced (itemChars spacing level items) (itemChars .compact level items)
  | [], level, _ => by
      rw [itemChars, itemChars]
      exact .nil
  | item :: others, level, finite => by
      obtain ⟨finiteItem, finiteOthers⟩ := List.forall_mem_cons.mp finite
      have between := Spaced.of_blanks (blank.beforeElement level)
      rw [itemChars, itemChars]
      exact .solid (.inr rfl) ((between.append (spaced_chars item _ finiteItem)).append
        (spaced_itemChars others _ finiteOthers))

theorem spaced_memberChars : ∀ (members : List (String × Json)) (level : Nat),
    (∀ member ∈ members, member.2.IsFinite) →
    Spaced (memberChars spacing level members) (memberChars .compact level members)
  | [], level, _ => by
      rw [memberChars, memberChars]
      exact .nil
  | (name, item) :: others, level, finite => by
      obtain ⟨finiteItem, finiteOthers⟩ := List.forall_mem_cons.mp finite
      have between := Spaced.of_blanks (blank.beforeElement level)
      rw [memberChars, memberChars]
      exact .solid (.inr rfl) ((((between.append (spaced_stringChars name)).append
        (spaced_colon blank)).append (spaced_chars item _ finiteItem)).append
        (spaced_memberChars others _ finiteOthers))

end

end Layouts

/-- The text of a value is read back, whatever white space follows it. -/
theorem ofText_render_append {spacing : Spacing} (blank : spacing.IsBlank) {value : Json}
    (finite : value.IsFinite) (after : String)
    (blankAfter : ∀ char ∈ after.toList, isBlank char = true) :
    ofText (value.render spacing ++ after) = some value.reading := by
  have follows : Follows after.toList := by
    rw [← List.append_nil after.toList]
    exact follows_append blankAfter (by simp [Follows])
  have ended : skipBlanks after.toList = [] := by
    rw [← List.append_nil after.toList, skipBlanks_append blankAfter]
    rfl
  have read : JsonReading.value ((value.render spacing ++ after).toList.length + 1)
      ([] ++ (value.chars spacing 0 ++ after.toList)) = some (value.reading, after.toList) := by
    refine value_chars blank value 0 finite (by simp) follows ?_
    simp only [render, String.toList_append, String.toList_ofList, List.length_append]
    omega
  have text : (value.render spacing ++ after).toList =
      value.chars spacing 0 ++ after.toList := by
    rw [render, String.toList_append, String.toList_ofList]
  rw [List.nil_append, ← text] at read
  simp only [ofText, read, Option.bind_eq_bind, Option.bind_some, if_pos ended]
  rfl

theorem ofText_render {spacing : Spacing} (blank : spacing.IsBlank) {value : Json}
    (finite : value.IsFinite) : ofText (value.render spacing) = some value.reading := by
  have read := ofText_render_append blank finite "" (by simp)
  rwa [String.append_empty] at read

theorem isIndent_iff {width : Int} :
    isIndent width = true ↔ -(2 ^ 63) ≤ width ∧ width < 2 ^ 63 := by
  have range : (indentRange : Int) = 2 ^ 63 := rfl
  rw [isIndent, decide_eq_true_iff, range]

theorem Spacing.ofIndent_cases (indent : Option Int) :
    (∃ spacing, ofIndent indent = .ok spacing ∧ spacing.IsBlank ∧
      ∀ width ∈ indent, -(2 ^ 63) ≤ width ∧ width < 2 ^ 63) ∨
    ∃ width, indent = some width ∧ ofIndent indent = .error .outOfRange ∧
      (width < -(2 ^ 63) ∨ 2 ^ 63 ≤ width) := by
  cases indent with
  | none => exact .inl ⟨_, rfl, isBlank_compact, by simp⟩
  | some width =>
      rw [ofIndent]
      split_ifs with inRange
      · refine .inl ⟨_, rfl, isBlank_indented _, ?_⟩
        rintro _ ⟨⟩
        exact isIndent_iff.mp inRange
      · rw [isIndent_iff] at inRange
        exact .inr ⟨width, rfl, rfl, by omega⟩

end Json

/-! ## Documents -/

theorem Number.isFinite_toJson (number : Number) : number.toJson.IsFinite := by
  rcases number.toJson_cases with ⟨isNull, -⟩ | ⟨whole, isInteger, -⟩ | ⟨value, isDouble, -, finite⟩
  · rw [isNull]
    exact .null
  · rw [isInteger]
    exact .integer whole
  · rw [isDouble]
    exact .double finite

theorem Constant.isFinite_toJson (constant : Constant) : constant.toJson.IsFinite := by
  cases constant with
  | nil => exact .null
  | boolean value => exact .boolean value
  | number value => exact value.isFinite_toJson
  | string value => exact .text _

theorem Json.isFinite_array_map {α : Type} {item : α → Json} (items : List α)
    (finite : ∀ entry, (item entry).IsFinite) : (Json.array (items.map item)).IsFinite := by
  refine .array fun value member => ?_
  obtain ⟨entry, -, rfl⟩ := List.mem_map.mp member
  exact finite entry

theorem Json.isFinite_optionalMember {α : Type} (name : String) {item : α → Json}
    (items : Option (List α)) (finite : ∀ entry, (item entry).IsFinite) :
    ∀ member ∈ optionalMember name item items, member.2.IsFinite := by
  cases items with
  | none => simp [optionalMember]
  | some items =>
      simp only [optionalMember, List.forall_mem_singleton]
      exact isFinite_array_map items finite

theorem Instruction.isFinite_sequenceJson (objects : Bool) (instructions : List Instruction) :
    (Json.array (sequenceJson objects instructions)).IsFinite := by
  refine .array fun value member => ?_
  cases objects with
  | false =>
      obtain ⟨instruction, -, inside⟩ := List.mem_flatMap.mp member
      obtain ⟨operand, -, rfl⟩ := List.mem_map.mp inside
      exact .integer operand
  | true =>
      obtain ⟨instruction, -, rfl⟩ := List.mem_map.mp member
      refine .object ?_
      simp [Json.IsFinite.integer]

theorem Local.isFinite_toJson (entry : Local) : entry.toJson.IsFinite := by
  refine .object ?_
  simp [Json.IsFinite.integer, Json.IsFinite.text]

theorem FunctionBody.isFinite_debugMembers (body : FunctionBody) :
    ∀ member ∈ body.debugMembers, member.2.IsFinite := by
  rw [debugMembers, List.forall_mem_append, List.forall_mem_append]
  exact ⟨⟨Json.isFinite_optionalMember _ _ .integer,
    Json.isFinite_optionalMember _ _ Local.isFinite_toJson⟩,
    Json.isFinite_optionalMember _ _ .text⟩

theorem FunctionBody.isFinite_leadingMembers (objects : Bool) (body : FunctionBody) :
    ∀ member ∈ body.leadingMembers objects, member.2.IsFinite := by
  simp [leadingMembers, Json.IsFinite.integer, Json.IsFinite.text,
    Instruction.isFinite_sequenceJson, Json.isFinite_array_map _ Constant.isFinite_toJson]

namespace Prototype

mutual

theorem isFinite_toJson (objects : Bool) : ∀ prototype : Prototype,
    (prototype.toJson objects).IsFinite
  | ⟨body, functions⟩ => by
      rw [toJson]
      refine .object (List.forall_mem_append.mpr ⟨body.isFinite_leadingMembers objects, ?_⟩)
      exact List.forall_mem_cons.mpr
        ⟨.array (isFinite_allToJson objects functions), body.isFinite_debugMembers⟩

theorem isFinite_allToJson (objects : Bool) : ∀ prototypes : List Prototype,
    ∀ value ∈ allToJson objects prototypes, value.IsFinite
  | [] => by simp [allToJson]
  | first :: rest => by
      rw [allToJson]
      exact List.forall_mem_cons.mpr
        ⟨isFinite_toJson objects first, isFinite_allToJson objects rest⟩

end

end Prototype

namespace DecodedFile

section Texts

variable {file : DecodedFile} {indent : Option Int}

theorem jsonText_eq_ok :
    (∃ text, file.jsonText indent = .ok text) ↔
      ∀ width ∈ indent, -(2 ^ 63) ≤ width ∧ width < 2 ^ 63 := by
  rw [jsonText]
  rcases Json.Spacing.ofIndent_cases indent with ⟨spacing, found, -, inRange⟩ |
    ⟨width, rfl, found, outOfRange⟩
  · rw [found]
    exact ⟨fun _ => inRange, fun _ => ⟨_, rfl⟩⟩
  · rw [found]
    constructor
    · rintro ⟨_, written⟩
      cases written
    · intro allowed
      have := allowed width rfl
      omega

theorem jsonText_eq_outOfRange :
    file.jsonText indent = .error .outOfRange ↔
      ∃ width ∈ indent, width < -(2 ^ 63) ∨ 2 ^ 63 ≤ width := by
  rw [jsonText]
  rcases Json.Spacing.ofIndent_cases indent with ⟨spacing, found, -, inRange⟩ |
    ⟨width, rfl, found, outOfRange⟩
  · rw [found]
    constructor
    · intro failed
      cases failed
    · rintro ⟨width, given, outOfRange⟩
      have := inRange width given
      omega
  · rw [found]
    exact ⟨fun _ => ⟨width, rfl, outOfRange⟩, fun _ => rfl⟩

theorem exists_spacing_of_jsonText {text : String} (written : file.jsonText indent = .ok text) :
    ∃ spacing : Json.Spacing, spacing.IsBlank ∧ file.toJson.render spacing = text := by
  rw [jsonText] at written
  rcases Json.Spacing.ofIndent_cases indent with ⟨spacing, found, blank, -⟩ | ⟨_, rfl, found, -⟩
  · rw [found] at written
    exact ⟨spacing, blank, Except.ok.inj written⟩
  · rw [found] at written
    cases written

end Texts

/-- The JSON text of a file exists for every indent that is a machine integer, and for no other. It
is ASCII, reads back as the file's JSON value, and without white space is the compact text. -/
theorem jsonText_readable (file : DecodedFile) (indent : Option Int) :
    ((∃ text, file.jsonText indent = .ok text) ↔
      ∀ width ∈ indent, -(2 ^ 63) ≤ width ∧ width < 2 ^ 63) ∧
    (file.jsonText indent = .error .outOfRange ↔
      ∃ width ∈ indent, width < -(2 ^ 63) ∨ 2 ^ 63 ≤ width) ∧
    ∀ text, file.jsonText indent = .ok text →
      (∀ char ∈ text.toList, char.toNat < 0x80) ∧
      JsonReading.ofText text = some file.toJson.reading ∧
      file.jsonText none = .ok (String.ofList (JsonReading.withoutBlanks false text.toList)) := by
  refine ⟨jsonText_eq_ok, jsonText_eq_outOfRange, ?_⟩
  intro text written
  obtain ⟨spacing, blank, rfl⟩ := exists_spacing_of_jsonText written
  have finite : file.toJson.IsFinite := Prototype.isFinite_toJson _ _
  have spaced := Json.spaced_chars blank file.toJson 0 finite
  refine ⟨?_, Json.ofText_render blank finite, ?_⟩
  · rw [Json.render, String.toList_ofList]
    exact spaced.ascii
  · rw [Json.render, String.toList_ofList, spaced.withoutBlanks_eq]
    rfl

/-- A file whose only function returns at once. -/
def bareFile : Bytes :=
  [0x1b, 0x4c, 0x75, 0x61, 0x51, 0, 1, 1, 1, 4, 8, 0,
    2, 0x74, 0, 0, 0, 0, 0, 2, 2,
    1, 0x1e, 0, 0x80, 0,
    0, 0, 0, 0, 0]

def bareResult : DecodedFile :=
  ⟨⟨0x51, 0, 1, ⟨1, 1, 4, 8⟩, 0⟩,
    ⟨⟨"t", 0, 0, 0, 0, 2, 2, [⟨30, 0, 1, 0, .abc, 0x80001e⟩], [], some [], some [], some []⟩, []⟩,
    {}, 31, 0⟩

theorem decode_bareFile : (decode bareFile {}).result = .ok bareResult := rfl

theorem jsonText_bareResult :
    (decode bareFile {}).result = .ok bareResult ∧
      ¬∃ text, bareResult.jsonText (some (-9223372036854775809)) = .ok text := by
  refine ⟨decode_bareFile, ?_⟩
  rintro ⟨text, written⟩
  cases written

end DecodedFile

end LuaBytecode
