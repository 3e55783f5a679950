import LuaBytecode.Proofs.Cursor
import LuaBytecode.Proofs.DecodeFailure
import LuaBytecode.Proofs.StoredFunction.Place
import Mathlib.Algebra.GroupWithZero.Nat

/-!
# Reading pays for what it gives

If no width is zero, every item takes at least one byte. A list can therefore not be longer than the
data after its count, whatever the count says, and the size of a decoded tree is bounded by the
number of bytes that were read for it.
-/

set_option autoImplicit false

namespace LuaBytecode

open Reader (Orderly takes_bind takes_pure)

variable {buffer : Buffer} {header : Header} {start stop : Nat}

/-! ## Items -/

theorem ItemKind.least_pos (nonzero : header.widths.firstZero? = none) (kind : ItemKind) :
    0 < kind.least header := by
  obtain ⟨int, sizeT, instruction, number⟩ := Widths.firstZero?_eq_none.mp nonzero
  cases kind with
  | constant => exact Nat.one_pos
  | _ =>
      simp only [least]
      omega

/-- The run of an item under any header. -/
theorem ItemKind.orderly (kind : ItemKind) (header : Header) (buffer : Buffer) (start : Nat) :
    Orderly (.ofCall buffer 0 0) (kind.least header) (kind.reader header) start :=
  (kind.walks False.elim (fun _ => trivial) start).orderly

theorem ItemKind.lt_of_takes (nonzero : header.widths.firstZero? = none) {kind : ItemKind}
    {value : kind.Value} (taken : (kind.reader header).Takes buffer start value stop) :
    start < stop := by
  have progress := (kind.orderly header buffer start).le_of_takes taken
  have positive := kind.least_pos nonzero
  omega

/-! ## Lists -/

theorem Reader.end_le_of_takes_field {width : Int} {value : Bytes}
    (taken : (field width).Takes buffer start value stop) : stop ≤ buffer.size := by
  unfold field at taken
  split at taken
  next => exact absurd taken takes_fail
  next =>
    simp only [Takes, bytes] at taken
    split at taken
    next enough => exact taken.2 ▸ enough
    next => cases taken.1

theorem Header.end_le_of_takes_integerField {count : Nat}
    (taken : header.integerField.Takes buffer start count stop) : stop ≤ buffer.size := by
  obtain ⟨stored, _, storedTaken, taken⟩ := takes_bind.mp taken
  obtain ⟨-, rfl⟩ := takes_pure.mp taken
  exact Reader.end_le_of_takes_field storedTaken

/-- A list takes at least as many bytes after its count as it has items. -/
theorem ItemKind.length_le_of_takes_items (nonzero : header.widths.firstZero? = none)
    {kind : ItemKind} {count : Nat} {values : List kind.Value} (inside : start ≤ buffer.size)
    (taken : (Reader.items (kind.reader header) count).Takes buffer start values stop) :
    start + count ≤ buffer.size := by
  have walks : Reader.Walks (.ofCall buffer 0 0) (kind.least header) (kind.reader header) :=
    kind.walks False.elim fun _ => trivial
  have orderly := (walks.items count start).orderly
  have progress := orderly.le_of_takes taken
  have within : stop ≤ buffer.size := by
    rw [← taken.2]
    exact orderly.inside inside
  have counted : count * 1 ≤ count * kind.least header :=
    Nat.mul_le_mul_left count (kind.least_pos nonzero)
  omega

theorem ItemKind.counted_fails (nonzero : header.widths.firstZero? = none) (kind : ItemKind)
    {count middle : Nat} (countTaken : header.integerField.Takes buffer start count middle)
    (beyond : buffer.size < middle + count) :
    ∃ fault, (header.counted (kind.reader header) buffer start).result = .error fault := by
  cases outcome : (header.counted (kind.reader header) buffer start).result with
  | error fault => exact ⟨fault, rfl⟩
  | ok values =>
      have taken : (header.counted (kind.reader header)).Takes buffer start values _ :=
        ⟨outcome, rfl⟩
      obtain ⟨_, _, sameCount, itemsTaken⟩ := takes_bind.mp taken
      obtain rfl := Except.ok.inj (countTaken.1.symm.trans sameCount.1)
      obtain rfl := countTaken.2.symm.trans sameCount.2
      have enough := length_le_of_takes_items nonzero
        (Header.end_le_of_takes_integerField countTaken) itemsTaken
      omega

/-- Under widths that a header can have, nothing fails but for a reason in the data. -/
theorem ItemKind.counted_isFormat (narrow : header.Narrow) (kind : ItemKind) {fault : Fault}
    (failed : (header.counted (kind.reader header) buffer start).result = .error fault) :
    fault.report.category.isFormat = true := by
  have walks : Reader.Walks (.ofData buffer) _ (header.counted (kind.reader header)) :=
    Header.walks_counted (fun _ => narrow) (kind.walks (fun _ => narrow) fun _ => trivial)
  have category := ((walks start).orderly.located fault failed).category
  simp only [List.mem_cons, List.not_mem_nil, or_false] at category
  rw [Fault.report_category]
  rcases category with found | found | found | found <;> rw [found] <;> rfl

/-! ## Trees -/

def Constant.textLength : Constant → Nat
  | .string value => value.length
  | .nil | .boolean _ | .number _ => 0

/-- What is counted of a function: itself, the items of its lists, the characters of its names and
the bytes of its string constants. -/
def FunctionBody.content (body : FunctionBody) : Nat :=
  let locals := body.locals.getD []
  let upvalues := body.upvalues.getD []
  1 + body.instructions.length + body.constants.length + (body.linePositions.getD []).length +
    locals.length + upvalues.length + body.source.length +
    (locals.map fun declared => declared.name.length).sum + (upvalues.map String.length).sum +
    (body.constants.map Constant.textLength).sum

namespace Prototype

def content (prototype : Prototype) : Nat :=
  (prototype.walk.map fun function => function.body.content).sum

theorem walkAll_eq_flatMap (functions : List Prototype) :
    walkAll functions = functions.flatMap walk := by
  induction functions with
  | nil => rfl
  | cons first rest ih => rw [walkAll, ih, List.flatMap_cons]

theorem content_mk (body : FunctionBody) (functions : List Prototype) :
    content ⟨body, functions⟩ = body.content + (functions.map content).sum := by
  rw [content, walk, List.map_cons, List.sum_cons, walkAll_eq_flatMap]
  induction functions with
  | nil => rfl
  | cons first rest ih =>
      simp only [List.flatMap_cons, List.map_append, List.sum_append, List.map_cons, List.sum_cons,
        content] at ih ⊢
      omega

end Prototype

theorem Format.length_add_sum_le {τ : Type} {format : Format τ} {extra : τ → Nat}
    (each : ∀ value, 1 + extra value ≤ (format.encode value).length) (values : List τ) :
    values.length + (values.map extra).sum ≤ (values.flatMap format.encode).length := by
  induction values with
  | nil => exact Nat.le_refl _
  | cons first rest ih =>
      have firstPays := each first
      simp only [List.length_cons, List.map_cons, List.sum_cons, List.flatMap_cons,
        List.length_append]
      omega

theorem Format.length_le_of_one_le {τ : Type} {format : Format τ}
    (each : ∀ value, 1 ≤ (format.encode value).length) (values : List τ) :
    values.length ≤ (values.flatMap format.encode).length := by
  have paid : values.length + (values.map fun _ => 0).sum ≤
      (values.flatMap format.encode).length := length_add_sum_le each values
  omega

@[simp] theorem Bytes.length_latin1 (bytes : Bytes) : (latin1 bytes).length = bytes.length := by
  simp [latin1]

theorem Bytes.length_beforeZero_le (bytes : Bytes) : (beforeZero bytes).length ≤ bytes.length :=
  (List.takeWhile_prefix _).length_le

namespace Header.Valid

variable (valid : header.Valid)
include valid

theorem one_le_length_integers (value : Nat) : 1 ≤ (header.integers.encode value).length := by
  have width : (header.integers.encode value).length = header.widths.int.toNat :=
    header.order.length_field _ _
  have positive := valid.int.1
  omega

theorem one_le_length_words (word : Nat) : 1 ≤ (header.words.encode word).length := by
  have width : (header.words.encode word).length = header.widths.instruction.toNat :=
    header.order.length_field _ _
  have positive := valid.instruction.1
  omega

theorem text_le_length_rawStrings (raw : Bytes) :
    1 + (Bytes.beforeZero raw).length ≤ (header.rawStrings.encode raw).length := by
  have width : (header.sizes.encode raw.length).length = header.widths.sizeT.toNat :=
    header.order.length_field _ _
  have positive := valid.sizeT.1
  have shorter := Bytes.length_beforeZero_le raw
  rw [rawStrings, List.length_append]
  omega

theorem name_le_length_strings (raw : Bytes) :
    1 + ((Vocabulary.raw header).name raw).length ≤
      ((Vocabulary.raw header).strings.encode raw).length := by
  rw [Vocabulary.name, Bytes.length_latin1]
  exact valid.text_le_length_rawStrings raw

theorem text_le_length_constants (constant : RawConstant) :
    1 + ((Vocabulary.raw header).constant constant).textLength ≤
      ((Vocabulary.raw header).constants.encode constant).length := by
  simp only [Vocabulary.raw, RawConstant.storage, List.length_cons]
  cases constant with
  | string raw =>
      have paid := valid.text_le_length_rawStrings raw
      simp only [RawConstant.meaning, Constant.textLength, RawConstant.payload]
      omega
  | nil | boolean byte | number raw =>
      simp only [RawConstant.meaning, Constant.textLength]
      omega

theorem name_le_length_locals (declared : StoredLocal Bytes) :
    1 + ((Vocabulary.raw header).name declared.name).length ≤
      (((Vocabulary.raw header).locals header).encode declared).length := by
  have paid := valid.name_le_length_strings declared.name
  simp only [Vocabulary.locals, List.length_append]
  omega

end Header.Valid

theorem StoredBody.content_meaning {σ κ : Type} (vocabulary : Vocabulary σ κ) {options : Options}
    (kept : options.stripDebugging = false) (body : StoredBody σ κ) :
    (body.meaning vocabulary options).content =
      1 + (vocabulary.name body.source).length + body.words.length +
        (body.constants.length +
          (body.constants.map fun constant => (vocabulary.constant constant).textLength).sum) +
        body.linePositions.length +
        (body.locals.length +
          (body.locals.map fun declared => (vocabulary.name declared.name).length).sum) +
        (body.upvalues.length +
          (body.upvalues.map fun upvalue => (vocabulary.name upvalue).length).sum) := by
  simp only [meaning, FunctionBody.content, kept, Bool.not_false, if_true, Option.getD_some,
    List.length_map, List.map_map, Function.comp_def, StoredLocal.meaning]
  omega

theorem StoredBody.content_le (valid : header.Valid) {options : Options}
    (kept : options.stripDebugging = false) (body : StoredBody Bytes RawConstant) :
    (body.meaning (.raw header) options).content ≤
      (body.front header (.raw header)).length + (body.back header (.raw header)).length := by
  have source := valid.name_le_length_strings body.source
  have words := Format.length_le_of_one_le valid.one_le_length_words body.words
  have constants := Format.length_add_sum_le valid.text_le_length_constants body.constants
  have lines := Format.length_le_of_one_le valid.one_le_length_integers body.linePositions
  have locals := Format.length_add_sum_le valid.name_le_length_locals body.locals
  have upvalues := Format.length_add_sum_le valid.name_le_length_strings body.upvalues
  simp only [content_meaning _ kept, front, back, Header.lists, Format.counted, List.length_append,
    List.length_cons, List.length_nil]
  omega

/-- Each function pays for itself with the bytes around its nested functions, and these pay for
themselves. -/
theorem StoredFunction.content_le (valid : header.Valid) {options : Options}
    (kept : options.stripDebugging = false) (root : ParseTree) :
    (root.meaning (.raw header) options).content ≤ (root.encode header (.raw header)).length := by
  induction root using StoredFunction.nested_induction with
  | node body functions ih =>
      have own := body.content_le valid kept
      have nested : ((meaningAll (.raw header) options functions).map Prototype.content).sum ≤
          (encodeAll header (.raw header) functions).length := by
        induction functions with
        | nil => exact Nat.le_refl _
        | cons first rest restIH =>
            obtain ⟨firstPays, restPay⟩ := List.forall_mem_cons.mp ih
            have paid := restIH restPay
            simp only [meaningAll, encodeAll, List.map_cons, List.sum_cons, List.length_append]
            omega
      rw [meaning, Prototype.content_mk]
      simp only [encode, List.length_append]
      omega

/-! ## Files -/

theorem header_valid_of_decode {data : Bytes} {options : Options} {file : DecodedFile}
    (succeeded : (decode data options).result = .ok file) : file.header.Valid := by
  obtain ⟨middle, headerTaken, -⟩ := decode_eq_ok.mp succeeded
  obtain ⟨_, valid, -, -, rfl⟩ := Header.read_acceptsOnly headerTaken
  exact valid

theorem content_le_of_decode {data : Bytes} {options : Options} {file : DecodedFile}
    (kept : options.stripDebugging = false) (succeeded : (decode data options).result = .ok file) :
    Header.size + file.tree.content ≤ file.consumed := by
  obtain ⟨root, -, -, -, -, consumed, -, meaning⟩ :=
    encodeFile_of_decode Vocabulary.raw_exhaustive succeeded
  have paid := root.content_le (header_valid_of_decode succeeded) kept
  rw [consumed, meaning, StoredFunction.encodeFile, List.length_append, Header.length_encode]
  omega

/-- Where no width is zero, an item takes a byte at least, and a list that claims more items than
there are bytes left cannot be read; under widths that a byte can hold it fails as a fault of the
format. What a file without loss of debug information decodes to is no larger than its bytes. -/
theorem reading_bounded_by_data :
    (∀ header : Header, header.widths.firstZero? = none → ∀ (kind : ItemKind) (buffer : Buffer)
        (start : Nat),
      (∀ value stop, (kind.reader header).Takes buffer start value stop → start + 1 ≤ stop) ∧
      ∀ count middle, header.integerField.Takes buffer start count middle →
        buffer.size < middle + count →
        ∃ fault, (header.counted (kind.reader header) buffer start).result = .error fault ∧
          (header.Narrow → fault.report.category.isFormat = true)) ∧
    ∀ (data : Bytes) (options : Options) (file : DecodedFile), options.stripDebugging = false →
      (decode data options).result = .ok file →
      Header.size + file.tree.content ≤ file.consumed := by
  refine ⟨?_, fun data options file kept succeeded => content_le_of_decode kept succeeded⟩
  intro header nonzero kind buffer start
  refine ⟨fun value stop taken => kind.lt_of_takes nonzero taken, ?_⟩
  intro count middle countTaken beyond
  obtain ⟨fault, failed⟩ := kind.counted_fails nonzero countTaken beyond
  exact ⟨fault, failed, fun narrow => kind.counted_isFormat narrow failed⟩

/-- A header with fields of one byte. -/
def smallHeader : Header := ⟨0x51, 0, 1, ⟨1, 1, 1, 1⟩, 1⟩

theorem reading_bounded_by_data_unusualFile :
    (smallHeader.nameField.Takes #[9, 1, 0x61, 0] 1 "a" 3 ∧ 1 + 1 ≤ 3) ∧
    (∃ fault, (smallHeader.counted smallHeader.nameField #[9, 1, 0x61, 0] 0).result = .error fault ∧
      fault.report.category.isFormat = true) ∧
    ∃ file, (decode unusualFile {}).result = .ok file ∧ 12 + file.tree.content ≤ 57 := by
  have narrow : smallHeader.Narrow := by constructor <;> decide
  have nameTaken : smallHeader.nameField.Takes #[9, 1, 0x61, 0] 1 "a" 3 := ⟨rfl, rfl⟩
  have countTaken : smallHeader.integerField.Takes #[9, 1, 0x61, 0] 0 9 1 := ⟨rfl, rfl⟩
  have bounded := reading_bounded_by_data.1 smallHeader (by decide) .name #[9, 1, 0x61, 0]
  obtain ⟨fault, failed, format⟩ := (bounded 0).2 9 1 countTaken (by decide)
  obtain ⟨file, succeeded, consumed⟩ := decode_unusualFile
  have content := reading_bounded_by_data.2 unusualFile {} file rfl succeeded
  rw [consumed] at content
  exact ⟨⟨nameTaken, (bounded 1).1 "a" 3 nameTaken⟩, ⟨fault, failed, format narrow⟩, file,
    succeeded, content⟩

end LuaBytecode
