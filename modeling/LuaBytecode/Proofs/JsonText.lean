import LuaBytecode.Json.Document
import LuaBytecode.Proofs.ExactValue
import LuaBytecode.Proofs.JsonString
import LuaBytecode.Proofs.NumberToken

/-!
# JSON texts of decoded files

The text of a JSON value is read back as that value, whatever white space the indent puts between
its tokens. The proofs follow the nesting of the value. A word or a number ends where no character
of a token follows, so every statement about a value allows any rest that starts otherwise.
-/

set_option autoImplicit false

namespace LuaBytecode

namespace JsonReading

/-- What can follow a word or a number. -/
def Follows (rest : List Char) : Prop :=
  ∀ char ∈ rest.head?, isTokenChar char = false

theorem follows_cons {char : Char} (rest : List Char) (other : isTokenChar char = false) :
    Follows (char :: rest) := by
  rintro _ ⟨⟩
  exact other

theorem isTokenChar_of_isBlank {char : Char} (blank : isBlank char = true) :
    isTokenChar char = false := by
  simp only [isBlank, Bool.or_eq_true, beq_iff_eq] at blank
  rcases blank with ((rfl | rfl) | rfl) | rfl <;> decide

theorem isBlank_of_isTokenChar {char : Char} (isToken : isTokenChar char = true) :
    isBlank char = false := by
  rw [← Bool.not_eq_true]
  intro blank
  rw [isTokenChar_of_isBlank blank] at isToken
  cases isToken

theorem follows_append {blanks rest : List Char} (blank : ∀ char ∈ blanks, isBlank char = true)
    (follows : Follows rest) : Follows (blanks ++ rest) := by
  cases blanks with
  | nil => exact follows
  | cons char others =>
      exact follows_cons _ (isTokenChar_of_isBlank (blank char List.mem_cons_self))

theorem skipBlanks_append {blanks : List Char} (blank : ∀ char ∈ blanks, isBlank char = true)
    (rest : List Char) : skipBlanks (blanks ++ rest) = skipBlanks rest :=
  List.dropWhile_append_of_pos blank

theorem skipBlanks_cons {char : Char} (solid : isBlank char = false) (rest : List Char) :
    skipBlanks (char :: rest) = char :: rest :=
  List.dropWhile_cons_of_neg (by simp [solid])

/-! ## Tokens -/

/-- A word or a number. -/
structure IsToken (token : List Char) : Prop where
  nonempty : token ≠ []
  chars : ∀ char ∈ token, isTokenChar char = true

theorem isToken_of_number {token : List Char} {reading : JsonReading}
    (read : number token = some reading) (chars : ∀ char ∈ token, isTokenChar char = true) :
    IsToken token := by
  refine ⟨?_, chars⟩
  rintro rfl
  cases read

theorem scalar_of_number {token : List Char} {reading : JsonReading}
    (read : number token = some reading) (chars : ∀ char ∈ token, isTokenChar char = true) :
    scalar token = some (reading, []) := by
  have notNull : token ≠ ['n', 'u', 'l', 'l'] := by
    rintro rfl
    cases read
  have notTrue : token ≠ ['t', 'r', 'u', 'e'] := by
    rintro rfl
    cases read
  have notFalse : token ≠ ['f', 'a', 'l', 's', 'e'] := by
    rintro rfl
    cases read
  have taken : token.takeWhile isTokenChar = token := List.takeWhile_eq_self_iff.mpr chars
  have dropped : token.dropWhile isTokenChar = [] := List.dropWhile_eq_nil_iff.mpr chars
  simp only [scalar, taken, dropped, notNull, notTrue, notFalse, if_false, read, Option.map_some]

theorem scalar_append {token rest : List Char} {reading : JsonReading}
    (isToken : ∀ char ∈ token, isTokenChar char = true) (follows : Follows rest)
    (read : scalar token = some (reading, [])) :
    scalar (token ++ rest) = some (reading, rest) := by
  have taken : (token ++ rest).takeWhile isTokenChar = token.takeWhile isTokenChar := by
    rw [List.takeWhile_append_of_pos isToken, List.takeWhile_eq_self_iff.mpr isToken]
    cases rest with
    | nil => rw [List.takeWhile_nil, List.append_nil]
    | cons char _ =>
        rw [List.takeWhile_cons_of_neg (by simp [follows char rfl]), List.append_nil]
  have dropped : (token ++ rest).dropWhile isTokenChar = rest := by
    rw [List.dropWhile_append_of_pos isToken]
    cases rest with
    | nil => rfl
    | cons char _ => rw [List.dropWhile_cons_of_neg (by simp [follows char rfl])]
  simp only [scalar, taken, dropped, List.dropWhile_eq_nil_iff.mpr isToken] at read ⊢
  split_ifs at read ⊢
  · cases read
    rfl
  · cases read
    rfl
  · cases read
    rfl
  · obtain ⟨value, found, same⟩ := Option.map_eq_some_iff.mp read
    cases same
    rw [found, Option.map_some]

/-! ## Steps of the reader -/

section Steps

variable {bound : Nat} {chars body after final : List Char}

theorem value_token {token rest : List Char} {reading : JsonReading} (isToken : IsToken token)
    (start : skipBlanks chars = skipBlanks (token ++ rest)) (follows : Follows rest)
    (read : scalar token = some (reading, [])) :
    value (bound + 1) chars = some (reading, rest) := by
  have read := scalar_append isToken.chars follows read
  obtain ⟨first, others, rfl⟩ := List.exists_cons_of_ne_nil isToken.nonempty
  have isTokenFirst := isToken.chars first List.mem_cons_self
  rw [value, start, List.cons_append, skipBlanks_cons (isBlank_of_isTokenChar isTokenFirst)]
  split
  next same => cases same; cases isTokenFirst
  next same => cases same; cases isTokenFirst
  next same => cases same; cases isTokenFirst
  next => exact read

theorem value_text {written : String} (start : skipBlanks chars = '"' :: body)
    (read : string body = some (written, after)) :
    value (bound + 1) chars = some (.text written, after) := by
  simp only [value, start, read, Option.bind_eq_bind, Option.bind_some]
  rfl

theorem value_array_nil (start : skipBlanks chars = '[' :: ']' :: after) :
    value (bound + 1) chars = some (.array [], after) := by
  rw [value, start]
  rfl

theorem value_array {reading : JsonReading} {others : List JsonReading}
    (start : skipBlanks chars = '[' :: body)
    (notClosed : (skipBlanks body).head? ≠ some ']')
    (first : value bound body = some (reading, after))
    (more : items bound after = some (others, final)) :
    value (bound + 1) chars = some (.array (reading :: others), final) := by
  rw [value, start]
  simp only
  split
  next closed => simp [closed] at notClosed
  next => simp only [first, more, Option.bind_eq_bind, Option.bind_some]; rfl

theorem value_object_nil (start : skipBlanks chars = '\x7b' :: '\x7d' :: after) :
    value (bound + 1) chars = some (.object [], after) := by
  rw [value, start]
  rfl

theorem value_object {name : String} {reading : JsonReading} {others : List (String × JsonReading)}
    {named : List Char} (start : skipBlanks chars = '\x7b' :: body)
    (notClosed : (skipBlanks body).head? ≠ some '\x7d')
    (nameRead : memberName body = some (name, named))
    (first : value bound named = some (reading, after))
    (more : members bound after = some (others, final)) :
    value (bound + 1) chars = some (.object ((name, reading) :: others), final) := by
  rw [value, start]
  simp only
  split
  next closed => simp [closed] at notClosed
  next => simp only [nameRead, first, more, Option.bind_eq_bind, Option.bind_some]; rfl

theorem items_close (start : skipBlanks chars = ']' :: after) :
    items (bound + 1) chars = some ([], after) := by
  rw [items, start]
  rfl

theorem items_more {reading : JsonReading} {others : List JsonReading}
    (start : skipBlanks chars = ',' :: body) (item : value bound body = some (reading, after))
    (more : items bound after = some (others, final)) :
    items (bound + 1) chars = some (reading :: others, final) := by
  simp only [items, start, item, more, Option.bind_eq_bind, Option.bind_some]
  rfl

theorem members_close (start : skipBlanks chars = '\x7d' :: after) :
    members (bound + 1) chars = some ([], after) := by
  rw [members, start]
  rfl

theorem members_more {name : String} {reading : JsonReading} {others : List (String × JsonReading)}
    {named : List Char} (start : skipBlanks chars = ',' :: body)
    (nameRead : memberName body = some (name, named))
    (item : value bound named = some (reading, after))
    (more : members bound after = some (others, final)) :
    members (bound + 1) chars = some ((name, reading) :: others, final) := by
  simp only [members, start, nameRead, item, more, Option.bind_eq_bind, Option.bind_some]
  rfl

end Steps

end JsonReading

/-! ## Values -/

namespace Json

open JsonReading

mutual

/-- What the text of a value says. Of a double it says the shortest digits. -/
def reading : Json → JsonReading
  | .null => .null
  | .boolean value => .boolean value
  | .integer value => .integer value
  | .double value => .decimal (doubleChars value)
  | .text value => .text value
  | .array items => .array (readings items)
  | .object members => .object (memberReadings members)

def readings : List Json → List JsonReading
  | [] => []
  | item :: rest => item.reading :: readings rest

def memberReadings : List (String × Json) → List (String × JsonReading)
  | [] => []
  | (name, item) :: rest => (name, item.reading) :: memberReadings rest

end

/-- No infinity and no NaN occurs in the value. -/
inductive IsFinite : Json → Prop where
  | null : IsFinite .null
  | boolean (value : Bool) : IsFinite (.boolean value)
  | integer (value : Int) : IsFinite (.integer value)
  | double {value : Double} (finite : value.isFinite = true) : IsFinite (.double value)
  | text (value : String) : IsFinite (.text value)
  | array {items : List Json} (finite : ∀ item ∈ items, IsFinite item) : IsFinite (.array items)
  | object {members : List (String × Json)} (finite : ∀ member ∈ members, IsFinite member.2) :
      IsFinite (.object members)

/-- The spacing consists of white space and of one colon after each name. -/
structure Spacing.IsBlank (spacing : Spacing) : Prop where
  beforeElement : ∀ level, ∀ char ∈ spacing.beforeElement level, isBlank char = true
  colon : ∃ blanks, spacing.colon = ':' :: blanks ∧ ∀ char ∈ blanks, isBlank char = true

theorem Spacing.isBlank_compact : Spacing.compact.IsBlank :=
  ⟨by simp [compact], [], rfl, by simp⟩

theorem Spacing.isBlank_indented (width : Nat) : (Spacing.indented width).IsBlank := by
  refine ⟨?_, [' '], rfl, by simp [isBlank]⟩
  intro level char member
  rcases List.mem_cons.mp member with rfl | isBlank
  · decide
  · rw [(List.mem_replicate.mp isBlank).2]
    decide

/-- The text is a token that is read back as the value. -/
structure IsLeaf (spacing : Spacing) (level : Nat) (value : Json) : Prop where
  isToken : IsToken (value.chars spacing level)
  read : scalar (value.chars spacing level) = some (value.reading, [])

/-- A value without infinities is a word or a number, a text, or a container. -/
theorem IsFinite.isLeaf {value : Json} (finite : value.IsFinite) (spacing : Spacing)
    (level : Nat) :
    IsLeaf spacing level value ∨ (∃ written, value = .text written) ∨
      (∃ items, value = .array items) ∨ ∃ members, value = .object members := by
  cases finite with
  | null => exact .inl ⟨⟨by simp [chars], by simp [chars]; decide⟩, by rw [chars]; rfl⟩
  | boolean value =>
      cases value <;>
        exact .inl ⟨⟨by simp [chars], by simp [chars]; decide⟩, by rw [chars]; rfl⟩
  | integer value =>
      have read := number_integerChars value
      have isTokens := isTokenChar_integerChars value
      refine .inl ⟨?_, ?_⟩ <;> rw [chars]
      · exact isToken_of_number read isTokens
      · exact scalar_of_number read isTokens
  | double finite =>
      have read := Double.number_doubleChars finite
      have isTokens := Double.isTokenChar_doubleChars finite
      refine .inl ⟨?_, ?_⟩ <;> rw [chars]
      · exact isToken_of_number read isTokens
      · exact scalar_of_number read isTokens
  | text written => exact .inr (.inl ⟨written, rfl⟩)
  | array => exact .inr (.inr (.inl ⟨_, rfl⟩))
  | object => exact .inr (.inr (.inr ⟨_, rfl⟩))

theorem chars_eq_cons (spacing : Spacing) (level : Nat) {value : Json} (finite : value.IsFinite) :
    ∃ first others, value.chars spacing level = first :: others ∧ isBlank first = false ∧
      first ≠ ']' := by
  rcases finite.isLeaf spacing level with leaf | ⟨written, rfl⟩ | ⟨items, rfl⟩ | ⟨members, rfl⟩
  · obtain ⟨first, others, split⟩ := List.exists_cons_of_ne_nil leaf.isToken.nonempty
    have isTokenFirst : isTokenChar first = true := leaf.isToken.chars first (by simp [split])
    refine ⟨first, others, split, isBlank_of_isTokenChar isTokenFirst, ?_⟩
    rintro rfl
    cases isTokenFirst
  · exact ⟨'"', _, by rw [chars, stringChars], by decide, by decide⟩
  · cases items with
    | nil => exact ⟨'[', _, by rw [chars], by decide, by decide⟩
    | cons => exact ⟨'[', _, by rw [chars], by decide, by decide⟩
  · cases members with
    | nil => exact ⟨'\x7b', _, by rw [chars], by decide, by decide⟩
    | cons => exact ⟨'\x7b', _, by rw [chars], by decide, by decide⟩

section RoundTrip

variable {spacing : Spacing}

theorem follows_itemChars (blank : spacing.IsBlank) {level above : Nat} (items : List Json)
    (rest : List Char) :
    Follows (itemChars spacing level items ++ (spacing.beforeElement above ++ ']' :: rest)) := by
  cases items with
  | nil =>
      rw [itemChars, List.nil_append]
      exact follows_append (blank.beforeElement above) (follows_cons _ (by decide))
  | cons => exact follows_cons _ (by decide)

theorem follows_memberChars (blank : spacing.IsBlank) {level above : Nat}
    (members : List (String × Json)) (rest : List Char) :
    Follows (memberChars spacing level members
      ++ (spacing.beforeElement above ++ '\x7d' :: rest)) := by
  cases members with
  | nil =>
      rw [memberChars, List.nil_append]
      exact follows_append (blank.beforeElement above) (follows_cons _ (by decide))
  | cons => exact follows_cons _ (by decide)

theorem memberName_stringChars (blank : spacing.IsBlank) {before : List Char} (name : String)
    (blankBefore : ∀ char ∈ before, isBlank char = true) :
    ∃ blanks, (∀ char ∈ blanks, isBlank char = true) ∧ ∀ rest,
      memberName (before ++ (stringChars name ++ (spacing.colon ++ rest))) =
        some (name, blanks ++ rest) := by
  obtain ⟨blanks, colon, blankAfter⟩ := blank.colon
  refine ⟨blanks, blankAfter, fun rest => ?_⟩
  have opened : skipBlanks (before ++ (stringChars name ++ (spacing.colon ++ rest))) =
      '"' :: (name.toList.flatMap stringChar ++ '"' :: ':' :: (blanks ++ rest)) := by
    rw [skipBlanks_append blankBefore, stringChars, List.cons_append,
      skipBlanks_cons (by decide), colon]
    simp
  rw [memberName, opened]
  simp only [string_stringChars, Option.bind_eq_bind, Option.bind_some,
    skipBlanks_cons (show isBlank ':' = false by decide)]
  rfl

private theorem value_leaf {value : Json} {level bound : Nat} {before rest : List Char}
    (leaf : IsLeaf spacing level value) (blankBefore : ∀ char ∈ before, isBlank char = true)
    (follows : Follows rest) :
    JsonReading.value (bound + 1) (before ++ (value.chars spacing level ++ rest)) =
      some (value.reading, rest) :=
  value_token leaf.isToken (skipBlanks_append blankBefore _) follows leaf.read

variable (blank : spacing.IsBlank)
include blank

mutual

/-- A value is read back from its text. -/
theorem value_chars : ∀ (value : Json) (level : Nat) {bound : Nat} {before rest : List Char},
    value.IsFinite → (∀ char ∈ before, isBlank char = true) → Follows rest →
    (value.chars spacing level).length < bound →
    JsonReading.value bound (before ++ (value.chars spacing level ++ rest)) =
      some (value.reading, rest)
  | .null, _, _ + 1, _, _, finite, blankBefore, follows, _ =>
      value_leaf ((finite.isLeaf _ _).resolve_right (by simp)) blankBefore follows
  | .boolean _, _, _ + 1, _, _, finite, blankBefore, follows, _ =>
      value_leaf ((finite.isLeaf _ _).resolve_right (by simp)) blankBefore follows
  | .integer _, _, _ + 1, _, _, finite, blankBefore, follows, _ =>
      value_leaf ((finite.isLeaf _ _).resolve_right (by simp)) blankBefore follows
  | .double _, _, _ + 1, _, _, finite, blankBefore, follows, _ =>
      value_leaf ((finite.isLeaf _ _).resolve_right (by simp)) blankBefore follows
  | .text value, level, _ + 1, before, rest, _, blankBefore, _, _ => by
      refine value_text ?_ (string_stringChars value rest)
      rw [skipBlanks_append blankBefore, chars, stringChars, List.cons_append,
        skipBlanks_cons (by decide), List.append_assoc, List.singleton_append]
  | .array [], level, _ + 1, before, rest, _, blankBefore, _, _ => by
      refine value_array_nil ?_
      rw [skipBlanks_append blankBefore, chars]
      rfl
  | .array (first :: others), level, bound + 1, before, rest, .array finite, blankBefore, follows,
      enough => by
      rw [chars] at enough ⊢
      simp only [List.length_cons, List.length_append, List.length_nil] at enough
      simp only [List.cons_append, List.nil_append, List.append_assoc]
      obtain ⟨finiteFirst, finiteOthers⟩ := List.forall_mem_cons.mp finite
      obtain ⟨char, remaining, split, solid, notClosed⟩ :=
        chars_eq_cons spacing (level + 1) finiteFirst
      have blankInside := blank.beforeElement (level + 1)
      refine value_array ?_ ?_
        (value_chars first (level + 1) finiteFirst blankInside (follows_itemChars blank others rest)
          (by omega))
        (items_itemChars others (level + 1) level finiteOthers (by omega))
      · rw [skipBlanks_append blankBefore, skipBlanks_cons (by decide)]
      · rw [skipBlanks_append blankInside, split, List.cons_append, skipBlanks_cons solid]
        simpa using notClosed
  | .object [], level, _ + 1, before, rest, _, blankBefore, _, _ => by
      refine value_object_nil ?_
      rw [skipBlanks_append blankBefore, chars]
      rfl
  | .object ((name, first) :: others), level, bound + 1, before, rest, .object finite, blankBefore,
      follows, enough => by
      rw [chars] at enough ⊢
      simp only [List.length_cons, List.length_append, List.length_nil] at enough
      simp only [List.cons_append, List.nil_append, List.append_assoc]
      obtain ⟨finiteFirst, finiteOthers⟩ := List.forall_mem_cons.mp finite
      have blankInside := blank.beforeElement (level + 1)
      obtain ⟨blanks, blankAfter, nameRead⟩ := memberName_stringChars blank name blankInside
      refine value_object ?_ ?_ (nameRead _)
        (value_chars first (level + 1) finiteFirst blankAfter
          (follows_memberChars blank others rest) (by omega))
        (members_memberChars others (level + 1) level finiteOthers (by omega))
      · rw [skipBlanks_append blankBefore, skipBlanks_cons (by decide)]
      · rw [skipBlanks_append blankInside, stringChars, List.cons_append,
          skipBlanks_cons (by decide)]
        simp

theorem items_itemChars : ∀ (items : List Json) (level above : Nat) {bound : Nat}
    {rest : List Char},
    (∀ item ∈ items, item.IsFinite) → (itemChars spacing level items).length < bound →
    JsonReading.items bound (itemChars spacing level items
      ++ (spacing.beforeElement above ++ ']' :: rest)) = some (readings items, rest)
  | [], level, above, _ + 1, rest, _, _ => by
      refine items_close ?_
      rw [itemChars, List.nil_append, skipBlanks_append (blank.beforeElement above),
        skipBlanks_cons (by decide)]
  | item :: others, level, above, bound + 1, rest, finite, enough => by
      rw [itemChars] at enough ⊢
      simp only [List.length_cons, List.length_append] at enough
      simp only [List.cons_append, List.append_assoc]
      obtain ⟨finiteItem, finiteOthers⟩ := List.forall_mem_cons.mp finite
      exact items_more (skipBlanks_cons (by decide) _)
        (value_chars item level finiteItem (blank.beforeElement level)
          (follows_itemChars blank others rest) (by omega))
        (items_itemChars others level above finiteOthers (by omega))

theorem members_memberChars : ∀ (members : List (String × Json)) (level above : Nat) {bound : Nat}
    {rest : List Char}, (∀ member ∈ members, member.2.IsFinite) →
    (memberChars spacing level members).length < bound →
    JsonReading.members bound (memberChars spacing level members
      ++ (spacing.beforeElement above ++ '\x7d' :: rest)) = some (memberReadings members, rest)
  | [], level, above, _ + 1, rest, _, _ => by
      refine members_close ?_
      rw [memberChars, List.nil_append, skipBlanks_append (blank.beforeElement above),
        skipBlanks_cons (by decide)]
  | (name, item) :: others, level, above, bound + 1, rest, finite, enough => by
      rw [memberChars] at enough ⊢
      simp only [List.length_cons, List.length_append] at enough
      simp only [List.cons_append, List.append_assoc]
      obtain ⟨finiteItem, finiteOthers⟩ := List.forall_mem_cons.mp finite
      obtain ⟨blanks, blankAfter, nameRead⟩ :=
        memberName_stringChars blank name (blank.beforeElement level)
      exact members_more (skipBlanks_cons (by decide) _) (nameRead _)
        (value_chars item level finiteItem blankAfter (follows_memberChars blank others rest)
          (by omega))
        (members_memberChars others level above finiteOthers (by omega))

end

end RoundTrip

end Json

end LuaBytecode
