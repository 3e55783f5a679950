import LuaBytecode.Proofs.ListingFailure
import LuaBytecode.Proofs.NumberRange

/-!
# Listings of decoded files

What a decoded file can bring into its listing. Constants and line positions are looked up inside
their lists only, although the operands that name them are whatever the file says: an operation that
takes a constant has an unsigned operand. Nothing but an integer constant past all doubles makes the
listing fail, and such a constant needs a field of more than 128 bytes.
-/

set_option autoImplicit false

namespace LuaBytecode

/-! ## The only failure -/

theorem FailsOnlyWith.mapIndexed {ε α β : Type} {failure : ε} {item : Nat → α → Except ε β}
    {items : List α} {index : Nat}
    (each : ∀ place value, items[place]? = some value →
      FailsOnlyWith failure (item (index + place) value)) :
    FailsOnlyWith failure (mapIndexed item index items) := by
  induction items generalizing index with
  | nil => exact of_succeeds ⟨[], rfl⟩
  | cons first rest ih =>
      refine (each 0 first rfl).bind fun head => (ih fun place value there => ?_).bind_pure
      rw [Nat.add_right_comm, Nat.add_assoc]
      exact each (place + 1) value there

theorem Constant.failsOnlyWith_listingText (constant : Constant) :
    FailsOnlyWith .integerTooLarge constant.listingText := by
  cases constant with
  | nil => exact .of_succeeds ⟨_, rfl⟩
  | boolean value => cases value <;> exact .of_succeeds ⟨_, rfl⟩
  | string value => exact .of_succeeds ⟨_, rfl⟩
  | number number =>
      cases number with
      | double value => exact .of_succeeds ⟨_, rfl⟩
      | integer value =>
          simp only [listingText, Number.listingText]
          cases Double.ofInteger? value with
          | none =>
              rintro _ ⟨⟩
              rfl
          | some nearest => exact .of_succeeds ⟨_, rfl⟩

namespace FunctionBody

variable {body : FunctionBody}

theorem failsOnlyWith_listingLine (writable : body.IsWritable) {counter : Nat}
    {instruction : Instruction} (there : body.instructions[counter]? = some instruction) :
    FailsOnlyWith .integerTooLarge (instruction.listingLine counter body) := by
  have remarked : FailsOnlyWith .integerTooLarge (instruction.remark counter body) := by
    rw [Instruction.remark]
    split
    next => exact .map (.of_succeeds (Number.succeeds_integerText (writable.jump there)))
    all_goals
      split
      next => exact .of_succeeds ⟨none, rfl⟩
      next constant _ => exact constant.failsOnlyWith_listingText.map
  refine remarked.bind fun remark => ?_
  refine .bind (.of_succeeds (Number.succeeds_integerText (writable.position there))) ?_
  intro position
  cases remark <;> exact .of_succeeds ⟨_, rfl⟩

theorem failsOnlyWith_listingBlock (writable : body.IsWritable) (isMain : Bool)
    (functions : Nat) : FailsOnlyWith .integerTooLarge (body.listingBlock isMain functions) := by
  refine .bind (.mapIndexed fun counter instruction there => ?_) fun code => ?_
  · rw [Nat.zero_add]
    exact failsOnlyWith_listingLine writable there
  refine .bind (.mapIndexed fun index constant _ => ?_) fun constants => ?_
  · exact constant.failsOnlyWith_listingText.bind_pure
  exact .bind_pure (.of_succeeds (succeeds_localLines writable))

end FunctionBody

namespace Prototype

mutual

theorem failsOnlyWith_listingLines (isMain : Bool) : ∀ (prototype : Prototype),
    (∀ function ∈ prototype.walk, function.body.IsWritable) →
    FailsOnlyWith .integerTooLarge (prototype.listingLines isMain)
  | ⟨body, functions⟩, writable => by
      rw [walk, List.forall_mem_cons] at writable
      rw [listingLines]
      exact (body.failsOnlyWith_listingBlock writable.1 isMain functions.length).bind fun _ =>
        (failsOnlyWith_nestedLines functions writable.2).bind_pure

theorem failsOnlyWith_nestedLines : ∀ (functions : List Prototype),
    (∀ function ∈ walkAll functions, function.body.IsWritable) →
    FailsOnlyWith .integerTooLarge (nestedLines functions)
  | [], _ => .of_succeeds ⟨[], rfl⟩
  | first :: rest, writable => by
      rw [walkAll, List.forall_mem_append] at writable
      rw [nestedLines]
      exact (failsOnlyWith_listingLines false first writable.1).bind fun _ =>
        (failsOnlyWith_nestedLines rest writable.2).bind_pure

end

end Prototype

/-! ## Lookups -/

theorem Opcode.layout_of_takesConstant {operation : Opcode}
    (takes : operation.takesConstant = true) : operation.layout = .abx := by
  revert takes
  cases operation <;> decide

namespace Instruction

/-- The operand of a decoded instruction that names a constant is never negative, so that it does
not count from the end. -/
theorem constantIndex?_ofWord {word : Int} {body : FunctionBody} {index : Int}
    (named : (ofWord word).constantIndex? body = some index) :
    0 ≤ index ∧ index < body.constants.length := by
  obtain ⟨⟨takes, inside⟩, same⟩ := Option.ite_none_right_eq_some.mp named
  obtain rfl := Option.some.inj same
  refine ⟨?_, inside⟩
  cases found : (ofWord word).operation? with
  | none => simp [found] at takes
  | some operation =>
      rw [operation?, opcode_ofWord] at found
      have layout : Layout.ofCode (opcodeField.extract word) = .abx := by
        rw [Layout.ofCode, found]
        exact Opcode.layout_of_takesConstant
          (by simpa [operation?, opcode_ofWord, found] using takes)
      simp only [ofWord, layout]
      exact Int.natCast_nonneg _

theorem lineIndex?_eq_some {counter : Nat} {lines : List Int} {index : Int}
    (shown : lineIndex? counter lines = some index) : 0 ≤ index ∧ index < lines.length := by
  obtain ⟨inside, same⟩ := Option.ite_none_right_eq_some.mp shown
  obtain rfl := Option.some.inj same
  omega

end Instruction

/-! ## Integer constants -/

/-- An integer constant was stored in a field of the declared width. -/
theorem integer_of_mem_constants {data : Bytes} {options : Options} {file : DecodedFile}
    (decoded : (decode data options).result = .ok file) {function : Prototype}
    (member : function ∈ file.tree.walk) {value : Int}
    (inConstants : .number (.integer value) ∈ function.body.constants) :
    file.header.integral ≠ 0 ∧
      value.natAbs ≤ 2 ^ (8 * file.header.widths.number.toNat - 1) := by
  obtain ⟨body, fits, stored⟩ := stored_of_mem_walk decoded member
  rw [stored] at inConstants
  obtain ⟨raw, inRaw, meant⟩ := List.mem_map.mp inConstants
  have rawFits : raw.Fits file.header := fits.constants.2 raw inRaw
  cases raw with
  | nil => cases meant
  | boolean byte => cases meant
  | string bytes => cases meant
  | number bytes =>
      have isNumber : Number.ofBytes file.header bytes = .integer value :=
        Constant.number.inj meant
      have length : bytes.length = file.header.widths.number.toNat := rawFits
      have width : file.header.widths.number = bytes.length := by
        have := (header_valid_of_decode decoded).number
        omega
      by_cases float : file.header.integral = 0
      · obtain ⟨_, isDouble, -⟩ := Number.ofBytes_float float width
        rw [isNumber] at isDouble
        cases isDouble
      · refine ⟨float, ?_⟩
        rw [Number.ofBytes_integral float] at isNumber
        obtain ⟨lower, upper, -⟩ := file.header.order.signed_range bytes
        rw [Number.integer.inj isNumber, length] at lower upper
        have cast : ((2 ^ (8 * file.header.widths.number.toNat - 1) : Nat) : Int) =
            2 ^ (8 * file.header.widths.number.toNat - 1) :=
          Int.natCast_pow 2 _
        omega

/-- The listing of a decoded file fails exactly when an integer constant rounds to no finite double,
and for no other cause. Doubles and integers of at most 128 bytes never make it fail, and whatever
the operands of an instruction are, what is looked up for its line lies inside the list. -/
theorem DecodedFile.listing_safe {data : Bytes} {options : Options} {file : DecodedFile}
    (decoded : (decode data options).result = .ok file) :
    ((∃ failure, file.listing = .error failure) ↔
      ∃ function ∈ file.tree.walk, ∃ value : Int,
        .number (.integer value) ∈ function.body.constants ∧
          2 ^ 1024 - 2 ^ 970 ≤ value.natAbs) ∧
    (∀ value : Int, Double.ofInteger? value = none ↔ 2 ^ 1024 - 2 ^ 970 ≤ value.natAbs) ∧
    (∀ failure, file.listing = .error failure → failure = .integerTooLarge) ∧
    (file.header.integral = 0 ∨ file.header.widths.number ≤ 128 →
      ∃ text, file.listing = .ok text) ∧
    ∀ function ∈ file.tree.walk, ∀ (counter : Nat) (instruction : Instruction),
      function.body.instructions[counter]? = some instruction →
        (∀ index, instruction.constantIndex? function.body = some index →
          0 ≤ index ∧ index < function.body.constants.length) ∧
        ∀ lines, function.body.linePositions = some lines →
          ∀ index, Instruction.lineIndex? counter lines = some index →
            0 ≤ index ∧ index < lines.length := by
  have succeeds := listing_eq_ok decoded
  refine ⟨?_, fun _ => Double.ofInteger?_eq_none, ?_, ?_, ?_⟩
  · have failing : (∃ failure, file.listing = .error failure) ↔
        ¬∃ text, file.listing = .ok text := by
      cases file.listing <;> simp
    rw [failing, succeeds]
    push Not
    rfl
  · have lines := Prototype.failsOnlyWith_listingLines true file.tree
      fun function => isWritable_of_mem_walk decoded
    exact lines.bind_pure
  · intro harmless
    refine succeeds.mpr fun function member value inConstants => ?_
    obtain ⟨integral, bounded⟩ := integer_of_mem_constants decoded member inConstants
    have narrow : file.header.widths.number ≤ 128 := harmless.resolve_left integral
    have small : value.natAbs ≤ 2 ^ 1023 :=
      bounded.trans (pow_le_pow_right₀ one_le_two (by omega))
    have double : 2 ^ 1024 = 2 * 2 ^ 1023 := by rw [← Nat.pow_add 2 1 1023]
    have less : 2 ^ 970 < 2 ^ 1023 := pow_lt_pow_right₀ one_lt_two (by decide)
    omega
  · intro function member counter instruction there
    obtain ⟨body, -, stored⟩ := stored_of_mem_walk decoded member
    have decodedWord : ∃ word : Nat, Instruction.ofWord word = instruction := by
      rw [stored] at there
      obtain ⟨word, -, same⟩ := Option.map_eq_some_iff.mp (List.getElem?_map.symm.trans there)
      exact ⟨word, same⟩
    obtain ⟨word, rfl⟩ := decodedWord
    exact ⟨fun _ => Instruction.constantIndex?_ofWord, fun _ _ _ => Instruction.lineIndex?_eq_some⟩

/-- A file with integer numbers of 129 bytes and the constant `2 ^ 1024`, whose code names the first
constant, a constant that is missing, and an instruction to jump to; only the first has a line. -/
def overlongFile : Bytes :=
  [0x1b, 0x4c, 0x75, 0x61, 0x51, 0, 1, 1, 1, 4, 129, 1,
    0, 0, 0, 0, 0, 2, 2,
    3, 1, 0, 0, 0, 1, 0x40, 1, 0, 0x16, 0x80, 0xff, 0x7f,
    1, 3] ++ List.replicate 128 0 ++ [1,
    0, 1, 7, 0, 0]

theorem DecodedFile.listing_safe_overlongFile :
    ∃ file, (decode overlongFile {}).result = .ok file ∧
      file.listing = .error .integerTooLarge ∧
      ∃ instruction, file.tree.body.instructions[0]? = some instruction ∧
        instruction.constantIndex? file.tree.body = some 0 ∧
        (0 : Int) < file.tree.body.constants.length := by
  have shape : (decode overlongFile {}).result.toOption.map (fun file =>
      (file.tree.body.constants, file.tree.body.instructions[0]?)) =
        some ([.number (.integer (2 ^ 1024 : Nat))], some (Instruction.ofWord 1)) := by
    decide +kernel
  cases outcome : (decode overlongFile {}).result with
  | error fault =>
      rw [outcome] at shape
      cases shape
  | ok file =>
      rw [outcome] at shape
      obtain ⟨constants, first⟩ := Prod.mk.inj (Option.some.inj shape)
      obtain ⟨fails, -, only, -, lookups⟩ := listing_safe outcome
      have root : file.tree ∈ file.tree.walk := by
        cases file.tree with | mk body functions => exact List.mem_cons_self
      have large : 2 ^ 1024 - 2 ^ 970 ≤ ((2 ^ 1024 : Nat) : Int).natAbs := by
        rw [Int.natAbs_natCast]
        exact Nat.sub_le _ _
      obtain ⟨failure, failed⟩ := fails.mpr ⟨file.tree, root, (2 ^ 1024 : Nat),
        by rw [constants]; exact List.mem_singleton_self _, large⟩
      have named : (Instruction.ofWord 1).constantIndex? file.tree.body = some 0 := by
        rw [Instruction.constantIndex?, constants]
        decide
      exact ⟨file, rfl, only failure failed ▸ failed, _, first, named,
        ((lookups _ root 0 _ first).1 0 named).2⟩

end LuaBytecode
