import LuaBytecode.Listing
import LuaBytecode.Proofs.DecodeFailure
import LuaBytecode.Proofs.InstructionWord
import LuaBytecode.Proofs.ParseTree
import LuaBytecode.Proofs.Progress
import LuaBytecode.Proofs.Results
import Mathlib.Algebra.Order.Ring.Int
import Mathlib.Tactic.Positivity

/-!
# Listings that cannot be written

A listing shows an integer constant through the nearest double. It fails exactly when a constant
somewhere in the tree is past all doubles; the positions it shows are always short enough, because
they were counted by fields of at most 255 bytes.
-/

set_option autoImplicit false

namespace LuaBytecode

/-! ## Integers past all doubles -/

/-- An odd quotient is left for the next one from the middle between them on. -/
theorem roundHalfEven_eq_succ {numerator quotient half : Nat} (odd : quotient % 2 = 1)
    (positive : 0 < half) (below : numerator < (quotient + 1) * (2 * half)) :
    roundHalfEven numerator (2 * half) = quotient + 1 ↔
      (quotient + 1) * (2 * half) ≤ numerator + half := by
  have division := Nat.div_add_mod numerator (2 * half)
  have remainder := Nat.mod_lt numerator (show 0 < 2 * half by omega)
  have atMost : numerator / (2 * half) ≤ quotient :=
    Nat.lt_succ_iff.mp ((Nat.div_lt_iff_lt_mul (by omega)).mpr below)
  have bounds := roundHalfEven_bounds numerator (2 * half)
  rw [Nat.mul_comm] at division
  rw [Nat.succ_mul quotient (2 * half)]
  rcases Nat.lt_or_eq_of_le atMost with less | same
  · have smaller := Nat.mul_le_mul_right (2 * half) (Nat.succ_le_of_lt less)
    rw [Nat.succ_mul (numerator / (2 * half))] at smaller
    omega
  · rw [same] at division
    simp only [roundHalfEven, same]
    split_ifs <;> omega

namespace Double

theorem ofSignificand?_eq_none {negative : Bool} {coefficient : Nat} {exponent : Int} :
    ofSignificand? negative coefficient exponent = none ↔
      0x10000000000000 ≤ coefficient ∧ 972 ≤ exponent := by
  rw [ofSignificand?]
  by_cases small : coefficient < 0x10000000000000
  · rw [if_pos small]
    constructor
    · intro absent
      cases absent
    · exact fun large => absurd small (Nat.not_lt.mpr large.1)
  · rw [if_neg small]
    simp only
    split
    next inRange =>
      constructor
      · intro absent
        cases absent
      · intro large
        omega
    next outside => exact ⟨fun _ => by omega, fun _ => rfl⟩

/-- The nearest double is missing where its exponent would be too large, also after rounding up. -/
theorem nearest?_whole_of_large {negative : Bool} {size : Nat} (large : 53 ≤ size.log2) :
    nearest? negative ⟨size, 0⟩ = none ↔
      1024 ≤ size.log2 ∨ size.log2 = 1023 ∧
        roundHalfEven size (2 ^ (size.log2 - 52)) = 0x20000000000000 := by
  have nonzero : size ≠ 0 := by
    rintro rfl
    simp at large
  obtain ⟨lower, upper⟩ := (Nat.log2_eq_iff nonzero).mp rfl
  have unit : max (-1074) (0 + (size.log2 : Int) - 52) = ((size.log2 - 52 : Nat) : Int) := by omega
  have shift : ((size.log2 - 52 : Nat) : Int) - 0 = ((size.log2 - 52 : Nat) : Int) := by omega
  have positive : 0 < 2 ^ (size.log2 - 52) := Nat.two_pow_pos _
  have atLeast : 0x10000000000000 ≤ size / 2 ^ (size.log2 - 52) := by
    rw [Nat.le_div_iff_mul_le positive]
    calc 0x10000000000000 * 2 ^ (size.log2 - 52) = 2 ^ (52 + (size.log2 - 52)) := by
          rw [Nat.pow_add]
      _ = 2 ^ size.log2 := by congr 1; omega
      _ ≤ size := lower
  have atMost : size / 2 ^ (size.log2 - 52) < 0x20000000000000 := by
    rw [Nat.div_lt_iff_lt_mul positive]
    calc size < 2 ^ (size.log2 + 1) := upper
      _ = 2 ^ (53 + (size.log2 - 52)) := by congr 1; omega
      _ = 0x20000000000000 * 2 ^ (size.log2 - 52) := by rw [Nat.pow_add]
  have rounded := roundHalfEven_bounds size (2 ^ (size.log2 - 52))
  simp only [nearest?, unit, shift, Int.toNat_natCast, Nat.one_shiftLeft]
  rw [if_neg (show ¬((size.log2 - 52 : Nat) : Int) ≤ 0 by omega)]
  generalize roundHalfEven size (2 ^ (size.log2 - 52)) = coefficient at rounded
  split_ifs with below
  · rw [ofSignificand?_eq_none]
    omega
  · rw [ofSignificand?_eq_none]
    omega

theorem nearest?_whole_of_small {negative : Bool} {size : Nat} (small : size.log2 ≤ 52) :
    nearest? negative ⟨size, 0⟩ ≠ none := by
  have unit : max (-1074) (0 + (size.log2 : Int) - 52) = (size.log2 : Int) - 52 := by omega
  simp only [nearest?, unit]
  split_ifs
  all_goals
    rw [ne_eq, ofSignificand?_eq_none]
    omega

theorem nearest?_whole_eq_none {negative : Bool} {size : Nat} :
    nearest? negative ⟨size, 0⟩ = none ↔ 2 ^ 1024 - 2 ^ 970 ≤ size := by
  -- All powers are multiples of one of them, so that the rest is linear.
  have top : 2 ^ 1024 = 0x40000000000000 * 2 ^ 970 := by rw [← Nat.pow_add 2 54 970]
  have below : 2 ^ 1023 = 0x20000000000000 * 2 ^ 970 := by rw [← Nat.pow_add 2 53 970]
  have step : 2 ^ 971 = 2 * 2 ^ 970 := by rw [← Nat.pow_add 2 1 970]
  have positive : 0 < 2 ^ 970 := by positivity
  have upper : size < 2 ^ (size.log2 + 1) := Nat.lt_log2_self
  by_cases small : size.log2 ≤ 52
  · have bounded : size < 2 ^ 53 :=
      Nat.lt_of_lt_of_le upper (Nat.pow_le_pow_right (by decide) (by omega))
    refine ⟨fun absent => absurd absent (nearest?_whole_of_small small), fun large => ?_⟩
    omega
  · rw [nearest?_whole_of_large (by omega)]
    rcases Nat.lt_trichotomy size.log2 1023 with less | same | more
    · have bounded : size < 2 ^ 1023 :=
        Nat.lt_of_lt_of_le upper (pow_le_pow_right₀ one_le_two (Nat.succ_le_of_lt less))
      omega
    · have bounded : size < (0x1fffffffffffff + 1) * (2 * 2 ^ 970) := by
        have upper : size < 2 ^ 1024 :=
          Nat.lt_of_lt_of_le upper (pow_le_pow_right₀ one_le_two (by omega))
        omega
      have middle := roundHalfEven_eq_succ (by decide) positive bounded
      rw [same, show 1023 - 52 = 971 from rfl, step]
      omega
    · have bounded : 2 ^ 1024 ≤ size :=
        Nat.le_trans (pow_le_pow_right₀ one_le_two (by omega))
          (Nat.log2_self_le (by rintro rfl; simp at more))
      omega

theorem ofInteger?_eq_none {value : Int} :
    ofInteger? value = none ↔ 2 ^ 1024 - 2 ^ 970 ≤ value.natAbs :=
  nearest?_whole_eq_none

end Double

/-! ## Lines -/

theorem succeeds_mapIndexed {ε α β : Type} {item : Nat → α → Except ε β} {items : List α}
    {index : Nat} :
    Succeeds (mapIndexed item index items) ↔
      ∀ place value, items[place]? = some value → Succeeds (item (index + place) value) := by
  induction items generalizing index with
  | nil => exact ⟨by simp, fun _ => ⟨[], rfl⟩⟩
  | cons first rest ih =>
      rw [mapIndexed, succeeds_both, ih]
      constructor
      · rintro ⟨head, others⟩ place value there
        cases place with
        | zero =>
            cases there
            exact head
        | succ place =>
            rw [← Nat.add_assoc, Nat.add_right_comm]
            exact others place value there
      · intro all
        refine ⟨all 0 first rfl, fun place value there => ?_⟩
        rw [Nat.add_right_comm, Nat.add_assoc]
        exact all (place + 1) value there

theorem Number.succeeds_integerText {value : Int} (writable : Text.isWritable value = true) :
    Succeeds (integerText value) :=
  ⟨_, if_pos writable⟩

theorem mem_of_itemAt? {α : Type} {items : List α} {index : Int} {item : α}
    (found : itemAt? items index = some item) : item ∈ items := by
  rw [itemAt?] at found
  split at found
  next => exact List.mem_of_getElem? found
  next =>
    obtain ⟨-, there⟩ := Option.ite_none_right_eq_some.mp found
    exact List.mem_of_getElem? there

theorem Instruction.mem_of_constant? {instruction : Instruction} {body : FunctionBody}
    {constant : Constant} (named : instruction.constant? body = some constant) :
    constant ∈ body.constants := by
  obtain ⟨index, -, found⟩ := Option.bind_eq_some_iff.mp named
  exact mem_of_itemAt? found

/-- The numbers that a listing shows of a function, apart from its constants, can be written. -/
structure FunctionBody.IsWritable (body : FunctionBody) : Prop where
  position {counter : Nat} {instruction : Instruction}
    (there : body.instructions[counter]? = some instruction) :
    Text.isWritable ((counter : Int) + 1) = true
  jump {counter : Nat} {instruction : Instruction}
    (there : body.instructions[counter]? = some instruction) :
    Text.isWritable ((counter : Int) + instruction.b + 2) = true
  scope {locals : List Local} (kept : body.locals = some locals) {entry : Local}
    (member : entry ∈ locals) :
    Text.isWritable (entry.startpc + 1) = true ∧ Text.isWritable (entry.endpc + 1) = true

namespace FunctionBody

variable {body : FunctionBody}

theorem succeeds_listingLine (writable : body.IsWritable)
    (constants : ∀ constant ∈ body.constants, Succeeds constant.listingText)
    {counter : Nat} {instruction : Instruction}
    (there : body.instructions[counter]? = some instruction) :
    Succeeds (instruction.listingLine counter body) := by
  have remarked : Succeeds (instruction.remark counter body) := by
    rw [Instruction.remark]
    split
    next =>
      obtain ⟨target, found⟩ := Number.succeeds_integerText (writable.jump there)
      exact ⟨_, by rw [found]; rfl⟩
    all_goals
      split
      next => exact ⟨none, rfl⟩
      next constant named =>
        obtain ⟨text, found⟩ := constants constant (Instruction.mem_of_constant? named)
        exact ⟨some text, by rw [found]; rfl⟩
  obtain ⟨remark, remarkFound⟩ := remarked
  obtain ⟨position, positionFound⟩ := Number.succeeds_integerText (writable.position there)
  rw [Instruction.listingLine, remarkFound, positionFound]
  cases remark <;> exact ⟨_, rfl⟩

theorem succeeds_localLines (writable : body.IsWritable) : Succeeds body.localLines := by
  rw [localLines]
  split
  next => exact ⟨[], rfl⟩
  next locals kept =>
    rw [succeeds_bind_pure, succeeds_mapIndexed]
    intro place entry there
    obtain ⟨start, stop⟩ := writable.scope kept (List.mem_of_getElem? there)
    obtain ⟨startText, startFound⟩ := Number.succeeds_integerText start
    obtain ⟨stopText, stopFound⟩ := Number.succeeds_integerText stop
    exact ⟨_, by rw [localLine, startFound, stopFound]; rfl⟩

theorem succeeds_listingBlock (writable : body.IsWritable) (isMain : Bool) (functions : Nat) :
    Succeeds (body.listingBlock isMain functions) ↔
      ∀ constant ∈ body.constants, Succeeds constant.listingText := by
  have constantLines : Succeeds (mapIndexed constantLine 0 body.constants) ↔
      ∀ constant ∈ body.constants, Succeeds constant.listingText := by
    rw [succeeds_mapIndexed]
    simp only [constantLine, succeeds_bind_pure]
    constructor
    · intro all constant member
      obtain ⟨place, there⟩ := List.getElem?_of_mem member
      exact all place constant there
    · intro all place constant there
      exact all constant (List.mem_of_getElem? there)
  rw [← constantLines, listingBlock]
  constructor
  · rintro ⟨_, printed⟩
    simp only [bind_eq_ok] at printed
    obtain ⟨-, -, constants, found, -⟩ := printed
    exact ⟨constants, found⟩
  · intro printed
    have codeLines : Succeeds (mapIndexed
        (fun counter instruction => instruction.listingLine counter body) 0 body.instructions) := by
      rw [succeeds_mapIndexed]
      intro counter instruction there
      rw [Nat.zero_add]
      exact succeeds_listingLine writable (constantLines.mp printed) there
    obtain ⟨code, codeFound⟩ := codeLines
    obtain ⟨constants, constantsFound⟩ := printed
    obtain ⟨locals, localsFound⟩ := succeeds_localLines writable
    exact ⟨_, by rw [codeFound, constantsFound, localsFound]; rfl⟩

end FunctionBody

namespace Prototype

mutual

theorem succeeds_listingLines (isMain : Bool) : ∀ (prototype : Prototype),
    (∀ function ∈ prototype.walk, function.body.IsWritable) →
    (Succeeds (prototype.listingLines isMain) ↔
      ∀ function ∈ prototype.walk, ∀ constant ∈ function.body.constants,
        Succeeds constant.listingText)
  | ⟨body, functions⟩, writable => by
      rw [walk, List.forall_mem_cons] at writable
      rw [walk, List.forall_mem_cons, listingLines, succeeds_both,
        ← body.succeeds_listingBlock writable.1 isMain functions.length,
        ← succeeds_nestedLines functions writable.2]

theorem succeeds_nestedLines : ∀ (functions : List Prototype),
    (∀ function ∈ walkAll functions, function.body.IsWritable) →
    (Succeeds (nestedLines functions) ↔
      ∀ function ∈ walkAll functions, ∀ constant ∈ function.body.constants,
        Succeeds constant.listingText)
  | [], _ => by
      rw [walkAll, nestedLines]
      exact ⟨by simp, fun _ => ⟨[], rfl⟩⟩
  | first :: rest, writable => by
      rw [walkAll, List.forall_mem_append] at writable
      rw [walkAll, List.forall_mem_append, nestedLines, succeeds_both,
        ← succeeds_listingLines false first writable.1, ← succeeds_nestedLines rest writable.2]

end

end Prototype

/-! ## Decoded files -/

theorem Constant.succeeds_listingText {constant : Constant} :
    Succeeds constant.listingText ↔
      ∀ value, constant = .number (.integer value) → value.natAbs < 2 ^ 1024 - 2 ^ 970 := by
  cases constant with
  | nil => exact ⟨by rintro - _ ⟨⟩, fun _ => ⟨_, rfl⟩⟩
  | boolean value =>
      cases value <;> exact ⟨by rintro - _ ⟨⟩, fun _ => ⟨_, rfl⟩⟩
  | string value => exact ⟨by rintro - _ ⟨⟩, fun _ => ⟨_, rfl⟩⟩
  | number number =>
      cases number with
      | double value => exact ⟨by rintro - _ ⟨⟩, fun _ => ⟨_, rfl⟩⟩
      | integer value =>
          have overflow : Double.ofInteger? value = none ↔ 2 ^ 1024 - 2 ^ 970 ≤ value.natAbs :=
            Double.ofInteger?_eq_none
          simp only [listingText, Number.listingText]
          cases found : Double.ofInteger? value with
          | none =>
              have large := overflow.mp found
              constructor
              · rintro ⟨_, absurd⟩
                cases absurd
              · intro small
                exact absurd (small value rfl) (Nat.not_lt.mpr large)
          | some nearest =>
              refine ⟨?_, fun _ => ⟨_, rfl⟩⟩
              rintro - _ ⟨⟩
              rw [← Nat.not_le, ← overflow, found]
              simp

/-- A count or an index stays writable after a few more steps. -/
theorem Text.isWritable_add {width value : Nat} (narrow : width ≤ 255)
    (fits : value < Bytes.capacity width) {shift : Int} (small : shift.natAbs ≤ 1000000) :
    Text.isWritable (value + shift) = true := by
  -- Three more bytes leave more room than the shift can take.
  have bound : Bytes.capacity (width + 3) ≤ Nat.pow 10 Text.maxDigits := by
    refine capacity_le_pow_ten ?_
    show 3 * (width + 3) ≤ 4300
    omega
  have positive := Bytes.capacity_pos width
  rw [Text.isWritable, decide_eq_true_iff]
  refine Nat.lt_of_lt_of_le ?_ bound
  rw [Bytes.capacity_succ, Bytes.capacity_succ, Bytes.capacity_succ]
  omega

theorem Instruction.b_ofWord (word : Int) : (ofWord word).b.natAbs ≤ 262144 := by
  have b := bField.extract_eq word
  have bx := bxField.extract_eq word
  simp only [bField, bxField] at b bx
  simp only [ofWord, bField, bxField]
  cases Layout.ofCode (opcodeField.extract word) with
  | abc =>
      simp only [b]
      omega
  | abx =>
      simp only [bx]
      omega
  | asbx =>
      simp only [bx, signedBias]
      omega

theorem StoredBody.isWritable_meaning {σ κ : Type} {header : Header} (valid : header.Valid)
    {vocabulary : Vocabulary σ κ} {options : Options} {body : StoredBody σ κ}
    (fits : body.Fits header vocabulary) : (body.meaning vocabulary options).IsWritable := by
  have narrow : header.widths.int.toNat ≤ 255 := by
    have := valid.int
    omega
  have counted {counter : Nat} {instruction : Instruction}
      (there : (body.meaning vocabulary options).instructions[counter]? = some instruction) :
      counter < Bytes.capacity header.widths.int.toNat ∧ instruction.b.natAbs ≤ 262144 := by
    obtain ⟨word, inWords, rfl⟩ := Option.map_eq_some_iff.mp
      (List.getElem?_map.symm.trans there)
    obtain ⟨inside, -⟩ := List.getElem?_eq_some_iff.mp inWords
    exact ⟨Nat.lt_trans inside fits.words.1, Instruction.b_ofWord word⟩
  constructor
  · intro counter instruction there
    exact Text.isWritable_add narrow (counted there).1 (by decide)
  · intro counter instruction there
    rw [Int.add_assoc]
    refine Text.isWritable_add narrow (counted there).1 ?_
    have := (counted there).2
    omega
  · intro locals kept entry member
    obtain ⟨-, kept⟩ := Option.ite_none_right_eq_some.mp kept
    cases kept
    obtain ⟨stored, inStored, rfl⟩ := List.mem_map.mp member
    obtain ⟨-, startFits, endFits⟩ := fits.locals.2 stored inStored
    exact ⟨Text.isWritable_add narrow startFits (by decide),
      Text.isWritable_add narrow endFits (by decide)⟩

theorem StoredFunction.exists_fits_of_mem_walk {σ κ : Type} {header : Header}
    {vocabulary : Vocabulary σ κ} {options : Options} {root : StoredFunction σ κ}
    (fits : root.Fits header vocabulary) :
    ∀ function ∈ (root.meaning vocabulary options).walk,
      ∃ body : StoredBody σ κ, body.Fits header vocabulary ∧
        function.body = body.meaning vocabulary options := by
  induction root using nested_induction with
  | node body functions ih =>
      intro function member
      rw [meaning, Prototype.walk, List.mem_cons, Prototype.walkAll_eq_flatMap,
        meaningAll_eq_map] at member
      rcases member with rfl | below
      · exact ⟨body, fits.body, rfl⟩
      · obtain ⟨prototype, inFunctions, inside⟩ := List.mem_flatMap.mp below
        obtain ⟨nested, inNested, rfl⟩ := List.mem_map.mp inFunctions
        exact ih nested inNested (fits.nested nested inNested) function inside

theorem stored_of_mem_walk {data : Bytes} {options : Options} {file : DecodedFile}
    (decoded : (decode data options).result = .ok file) {function : Prototype}
    (member : function ∈ file.tree.walk) :
    ∃ body : StoredBody Bytes RawConstant, body.Fits file.header (.raw file.header) ∧
      function.body = body.meaning (.raw file.header) options := by
  obtain ⟨root, -, fits, -, -, -, -, meaning⟩ :=
    encodeFile_of_decode Vocabulary.raw_exhaustive decoded
  rw [meaning] at member
  exact StoredFunction.exists_fits_of_mem_walk fits function member

theorem isWritable_of_mem_walk {data : Bytes} {options : Options} {file : DecodedFile}
    (decoded : (decode data options).result = .ok file) {function : Prototype}
    (member : function ∈ file.tree.walk) : function.body.IsWritable := by
  obtain ⟨body, fits, stored⟩ := stored_of_mem_walk decoded member
  rw [stored]
  exact StoredBody.isWritable_meaning (header_valid_of_decode decoded) fits

/-- The listing of a decoded file exists unless an integer constant is past all doubles. -/
theorem DecodedFile.listing_eq_ok {data : Bytes} {options : Options} {file : DecodedFile}
    (decoded : (decode data options).result = .ok file) :
    (∃ text, file.listing = .ok text) ↔
      ∀ function ∈ file.tree.walk, ∀ value,
        .number (.integer value) ∈ function.body.constants →
          value.natAbs < 2 ^ 1024 - 2 ^ 970 := by
  show Succeeds file.listing ↔ _
  rw [listing, succeeds_bind_pure, Prototype.succeeds_listingLines true file.tree
    fun function => isWritable_of_mem_walk decoded]
  simp only [Constant.succeeds_listingText]
  constructor
  · intro all function member value inConstants
    exact all function member _ inConstants value rfl
  · rintro all function member _ inConstants value rfl
    exact all function member value inConstants

end LuaBytecode
