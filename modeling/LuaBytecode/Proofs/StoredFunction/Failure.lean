import LuaBytecode.Proofs.FailedReading
import LuaBytecode.Proofs.StoredFunction.Place
import LuaBytecode.Proofs.StoredFunction.Reader

/-!
# Failures inside a stored function

A function of a tree that cannot be read makes the whole tree fail with the same fault at the same
place, as long as the bytes before it are those of the tree and the functions before it are not
nested too deeply. What the bytes after that place are makes no difference.
-/

set_option autoImplicit false

namespace LuaBytecode

open Reader (takes_offset fails_fail)

variable {σ κ : Type} {header : Header} {vocabulary : Vocabulary σ κ} {buffer : Buffer}
  {start stop : Nat} {fault : Fault}

/-- What stands before the constants. -/
def StoredBody.opening (header : Header) (vocabulary : Vocabulary σ κ) (body : StoredBody σ κ) :
    Bytes :=
  vocabulary.strings.encode body.source ++
  header.integers.encode body.lineDefined ++
  header.integers.encode body.lastLineDefined ++
  [body.upvalueCount, body.paramCount, body.vararg, body.maxStackSize] ++
  (header.lists header.words).encode body.words

theorem StoredBody.front_eq (body : StoredBody σ κ) :
    body.front header vocabulary = body.opening header vocabulary ++
      (header.lists vocabulary.constants).encode body.constants :=
  rfl

/-- What is read after the opening decides, if the opening is there. -/
theorem StoredBody.fails_after_opening {β : Type} (valid : header.Valid)
    (decoded : vocabulary.Decoded header) {body : StoredBody σ κ}
    (fits : body.Fits header vocabulary)
    (held : buffer.Holds start (body.opening header vocabulary))
    {next : String → Nat → Nat → UInt8 → UInt8 → UInt8 → UInt8 → List Instruction → Reader β}
    (failed : (next (vocabulary.name body.source) body.lineDefined body.lastLineDefined
      body.upvalueCount body.paramCount body.vararg body.maxStackSize
      (body.words.map fun (word : Nat) => Instruction.ofWord word)).Fails buffer
        (start + (body.opening header vocabulary).length) fault stop) :
    Reader.Fails (do
      let source ← header.nameField
      let lineDefined ← header.integerField
      let lastLineDefined ← header.integerField
      let upvalueCount ← Reader.byte
      let paramCount ← Reader.byte
      let vararg ← Reader.byte
      let maxStackSize ← Reader.byte
      let instructions ← header.counted (Instruction.read header)
      next source lineDefined lastLineDefined upvalueCount paramCount vararg maxStackSize
        instructions) buffer start fault stop := by
  have integers := Header.integerField_decodes valid
  simp only [opening, List.append_assoc, List.cons_append, List.nil_append, Buffer.holds_append,
    Buffer.holds_cons] at held
  obtain ⟨source, lineDefined, lastLineDefined, upvalueCount, paramCount, vararg, maxStackSize,
    words⟩ := held
  simp only [opening, List.length_append, List.length_cons, List.length_nil, ← Nat.add_assoc]
    at failed
  refine decoded.names.thenFails fits.source source ?_
  refine integers.thenFails fits.lineDefined lineDefined ?_
  refine integers.thenFails fits.lastLineDefined lastLineDefined ?_
  refine (Reader.takes_byte.mpr ⟨upvalueCount, rfl⟩).thenFails ?_
  refine (Reader.takes_byte.mpr ⟨paramCount, rfl⟩).thenFails ?_
  refine (Reader.takes_byte.mpr ⟨vararg, rfl⟩).thenFails ?_
  refine (Reader.takes_byte.mpr ⟨maxStackSize, rfl⟩).thenFails ?_
  refine (Header.counted_decodes valid (Instruction.read_decodes valid)).thenFails fits.words
    words ?_
  exact failed

/-! ## Depths -/

theorem Prototype.read_of_limit_lt {depth : Int} (deep : nestingLimit < depth)
    (options : Options) :
    (read header options depth).Fails buffer start (.tooDeep start) start := by
  have noLevels : ((nestingLimit : Int) + 1 - depth).toNat = 0 := by omega
  rw [read, noLevels]
  unfold readWithin
  exact (takes_offset.mpr ⟨rfl, rfl⟩).thenFails (fails_fail.mpr ⟨rfl, rfl⟩)

theorem Prototype.read_of_le_limit {depth : Int} (low : depth ≤ nestingLimit)
    (header : Header) (options : Options) :
    read header options depth =
      readWithin header options (((nestingLimit : Int) + 1 - (depth + 1)).toNat + 1) depth := by
  have levels : ((nestingLimit : Int) + 1 - depth).toNat =
      ((nestingLimit : Int) + 1 - (depth + 1)).toNat + 1 := by omega
  rw [read, levels]

theorem Prototype.takes_read (valid : header.Valid) (decoded : vocabulary.Decoded header)
    (options : Options) {depth : Int} {function : StoredFunction σ κ}
    (fits : function.Fits header vocabulary) (low : depth + function.height ≤ nestingLimit)
    (held : buffer.Holds start (function.encode header vocabulary)) :
    (read header options depth).Takes buffer start (function.meaning vocabulary options)
      (start + (function.encode header vocabulary).length) := by
  have levels : function.height < ((nestingLimit : Int) + 1 - depth).toNat := by omega
  exact readWithin_decodes valid decoded options _ depth ⟨fits, levels⟩ held

/-! ## Nested functions -/

theorem Prototype.fails_in_functions (valid : header.Valid) (decoded : vocabulary.Decoded header)
    (options : Options) {depth : Int} (low : depth ≤ nestingLimit) {body : StoredBody σ κ}
    {functions before after : List (StoredFunction σ κ)} {function : StoredFunction σ κ}
    (split : functions = before ++ function :: after)
    (fits : StoredFunction.Fits header vocabulary ⟨body, functions⟩)
    (beforeLow : ∀ earlier ∈ before, depth + 1 + earlier.height ≤ nestingLimit)
    (held : buffer.Holds start (StoredFunction.lead header vocabulary body functions ++
      StoredFunction.encodeAll header vocabulary before))
    (failed : (read header options (depth + 1)).Fails buffer
      (start + (StoredFunction.lead header vocabulary body functions).length +
        (StoredFunction.encodeAll header vocabulary before).length) fault stop) :
    (read header options depth).Fails buffer start fault stop := by
  obtain ⟨bodyFits, countFits, nestedFit⟩ := fits
  simp only [StoredFunction.lead, StoredBody.front_eq, StoredFunction.encodeAll_eq_flatMap,
    List.append_assoc, Buffer.holds_append] at held
  obtain ⟨openingHeld, constantsHeld, countHeld, beforeHeld⟩ := held
  simp only [StoredFunction.lead, StoredBody.front_eq, StoredFunction.encodeAll_eq_flatMap,
    List.length_append, ← Nat.add_assoc] at failed
  let nested : Format (StoredFunction σ κ) :=
    StoredFunction.within header vocabulary ((nestingLimit : Int) + 1 - (depth + 1)).toNat
  have decodes : (read header options (depth + 1)).Decodes nested
      (StoredFunction.meaning vocabulary options) :=
    readWithin_decodes valid decoded options _ (depth + 1)
  have beforeFit : ∀ earlier ∈ before, nested.Fits earlier := by
    intro earlier member
    have earlierLow := beforeLow earlier member
    refine ⟨nestedFit earlier ?_, by omega⟩
    rw [split]
    exact List.mem_append_left _ member
  have more : before.length < functions.length := by simp [split]
  rw [read_of_le_limit low]
  simp only [readWithin, FunctionBody.readFront, bind_assoc, pure_bind]
  refine (takes_offset.mpr ⟨rfl, rfl⟩).thenFails ?_
  refine StoredBody.fails_after_opening valid decoded bodyFits openingHeld ?_
  refine (Header.counted_decodes valid decoded.constants).thenFails bodyFits.constants
    constantsHeld ?_
  refine Reader.Fails.followed ?_ _
  refine (Header.integerField_decodes valid).thenFails countFits countHeld ?_
  exact decodes.items_fails beforeFit beforeHeld more failed

/-- The first function in the order of the file that cannot be read decides how the tree fails. -/
theorem Prototype.fails_at_place (valid : header.Valid) (decoded : vocabulary.Decoded header)
    (options : Options) {whole : Buffer} {cut : Nat} (agree : buffer.AgreesBefore whole cut)
    {depth : Int} {root : StoredFunction σ κ} (fits : root.Fits header vocabulary)
    (held : whole.Holds start (root.encode header vocabulary))
    {earlier later : List (StoredFunction.Place σ κ)} {place : StoredFunction.Place σ κ}
    (split : root.places header vocabulary depth start = earlier ++ place :: later)
    (shallow : ∀ passed ∈ earlier, passed.depth ≤ nestingLimit) (reached : place.start ≤ cut)
    (failed : (read header options place.depth).Fails buffer place.start fault stop) :
    (read header options depth).Fails buffer start fault stop := by
  induction root using StoredFunction.nested_induction generalizing depth start earlier later
  with
  | node body functions ih =>
      rw [StoredFunction.places] at split
      cases earlier with
      | nil =>
          obtain ⟨rfl, -⟩ := List.cons.inj split
          exact failed
      | cons self earlier =>
          obtain ⟨rfl, below⟩ := List.cons.inj split
          obtain ⟨low, shallow⟩ := List.forall_mem_cons.mp shallow
          -- The place lies in one of the nested functions. Those before it have all their places
          -- before it, so they are not too deep and can be read.
          obtain ⟨before, function, after, sooner, rest, parts, inFunction, rfl⟩ :=
            StoredFunction.placesAll_split below
          have beforeLow : ∀ passed ∈ before, depth + 1 + passed.height ≤ nestingLimit :=
            StoredFunction.height_le_of_placesAll fun place member =>
              shallow place (List.mem_append_left _ member)
          have inside : place ∈ function.places header vocabulary (depth + 1) _ :=
            inFunction ▸ List.mem_append_right _ List.mem_cons_self
          have past := StoredFunction.start_le_of_mem_places inside
          subst parts
          rw [StoredFunction.encode_split, ← List.append_assoc, Buffer.holds_append,
            List.length_append, ← Nat.add_assoc] at held
          obtain ⟨leadHeld, functionHeld⟩ := held
          refine fails_in_functions valid decoded options low rfl fits beforeLow
            (agree.holds leadHeld ?_) ?_
          · rw [List.length_append]
            omega
          · refine ih function (by simp) (fits.nested function (by simp))
              (Buffer.holds_append.mp functionHeld).1 inFunction ?_
            exact fun passed member => shallow passed (List.mem_append_right _ member)

def StoredFunction.Place.isTooDeep (place : StoredFunction.Place σ κ) : Bool :=
  decide ((nestingLimit : Int) < place.depth)

/-- A tree with too many levels fails at the first function in the order of the file that lies too
deep. -/
theorem Prototype.fails_tooDeep (valid : header.Valid) (decoded : vocabulary.Decoded header)
    (options : Options) {depth : Int} {root : StoredFunction σ κ}
    (fits : root.Fits header vocabulary) (deep : nestingLimit < depth + root.height)
    (held : buffer.Holds start (root.encode header vocabulary)) :
    ∃ place, (root.places header vocabulary depth start).find? (·.isTooDeep) = some place ∧
      (read header options depth).Fails buffer start (.tooDeep place.start) place.start := by
  cases found : (root.places header vocabulary depth start).find? (·.isTooDeep) with
  | none =>
      have shallow : ∀ place ∈ root.places header vocabulary depth start,
          place.depth ≤ nestingLimit := by
        intro place member
        simpa [StoredFunction.Place.isTooDeep] using List.find?_eq_none.mp found place member
      have low := StoredFunction.height_le_of_places shallow
      omega
  | some place =>
      obtain ⟨tooDeep, earlier, later, split, shallow⟩ := List.find?_eq_some_iff_append.mp found
      have failed : (read header options place.depth).Fails buffer place.start
          (.tooDeep place.start) place.start := read_of_limit_lt (of_decide_eq_true tooDeep) options
      refine ⟨place, rfl, fails_at_place valid decoded options rfl fits held split ?_
        (Nat.le_refl _) failed⟩
      intro passed member
      simpa [StoredFunction.Place.isTooDeep] using shallow passed member

/-! ## Constants -/

/-- What stands before the constant with the given index. -/
def StoredBody.beforeConstant (header : Header) (vocabulary : Vocabulary σ κ)
    (body : StoredBody σ κ) (index : Nat) : Bytes :=
  body.opening header vocabulary ++ header.integers.encode body.constants.length ++
    (body.constants.take index).flatMap vocabulary.constants.encode

theorem StoredFunction.encode_eq_beforeConstant {function : StoredFunction σ κ} {index : Nat}
    {constant : κ} (found : function.body.constants[index]? = some constant) :
    ∃ after, function.encode header vocabulary =
      function.body.beforeConstant header vocabulary index ++
        (vocabulary.constants.encode constant ++ after) := by
  obtain ⟨body, functions⟩ := function
  obtain ⟨inside, rfl⟩ := List.getElem?_eq_some_iff.mp found
  have parts : body.constants.flatMap vocabulary.constants.encode =
      (body.constants.take index).flatMap vocabulary.constants.encode ++
        (vocabulary.constants.encode body.constants[index] ++
          (body.constants.drop (index + 1)).flatMap vocabulary.constants.encode) := by
    rw [← List.flatMap_cons, ← List.drop_eq_getElem_cons inside, ← List.flatMap_append,
      List.take_append_drop]
  refine ⟨(body.constants.drop (index + 1)).flatMap vocabulary.constants.encode ++
    (header.integers.encode functions.length ++ encodeAll header vocabulary functions) ++
    body.back header vocabulary, ?_⟩
  simp only [encode, StoredBody.front_eq, Header.lists, Format.counted, StoredBody.beforeConstant,
    parts, List.append_assoc]

/-- The offset of the constant with the given index in the function at a place. -/
def StoredFunction.Place.constantStart (header : Header) (vocabulary : Vocabulary σ κ)
    (place : StoredFunction.Place σ κ) (index : Nat) : Nat :=
  place.start + (place.function.body.beforeConstant header vocabulary index).length

theorem StoredFunction.holds_constant {depth : Int} {root : StoredFunction σ κ}
    (held : buffer.Holds start (root.encode header vocabulary))
    {place : StoredFunction.Place σ κ}
    (member : place ∈ root.places header vocabulary depth start) {index : Nat} {constant : κ}
    (found : place.function.body.constants[index]? = some constant) :
    buffer.Holds place.start (place.function.body.beforeConstant header vocabulary index) ∧
      buffer.Holds (place.constantStart header vocabulary index)
        (vocabulary.constants.encode constant) := by
  have functionHeld := holds_of_mem_places held member
  obtain ⟨after, parts⟩ := encode_eq_beforeConstant found
  rw [parts, Buffer.holds_append, Buffer.holds_append] at functionHeld
  obtain ⟨beforeHeld, constantHeld, -⟩ := functionHeld
  exact ⟨beforeHeld, constantHeld⟩

theorem Constant.read_of_unknown {tag : UInt8} (held : buffer[start]? = some tag)
    (unknown : tag ∉ [0, 1, 3, 4]) :
    (Constant.read header).Fails buffer start (.unknownConstant tag.toNat start) (start + 1) := by
  simp only [List.mem_cons, List.not_mem_nil, or_false, not_or] at unknown
  obtain ⟨notNil, notBoolean, notNumber, notString⟩ := unknown
  refine (takes_offset.mpr ⟨rfl, rfl⟩).thenFails ?_
  refine (Reader.takes_byte.mpr ⟨held, rfl⟩).thenFails ?_
  rw [if_neg notNil, if_neg notBoolean, if_neg notNumber, if_neg notString]
  exact fails_fail.mpr ⟨rfl, rfl⟩

theorem Prototype.fails_in_constants (valid : header.Valid) (decoded : vocabulary.Decoded header)
    (options : Options) {depth : Int} (low : depth ≤ nestingLimit) {body : StoredBody σ κ}
    (fits : body.Fits header vocabulary) {index : Nat} (inside : index < body.constants.length)
    (held : buffer.Holds start (body.beforeConstant header vocabulary index))
    (failed : (Constant.read header).Fails buffer
      (start + (body.beforeConstant header vocabulary index).length) fault stop) :
    (read header options depth).Fails buffer start fault stop := by
  simp only [StoredBody.beforeConstant, List.append_assoc, Buffer.holds_append] at held
  obtain ⟨openingHeld, countHeld, earlierHeld⟩ := held
  simp only [StoredBody.beforeConstant, List.length_append, ← Nat.add_assoc] at failed
  have earlierFit : ∀ constant ∈ body.constants.take index, vocabulary.constants.Fits constant :=
    fun constant member => fits.constants.2 constant (List.mem_of_mem_take member)
  have more : (body.constants.take index).length < body.constants.length := by
    rw [List.length_take]
    omega
  rw [read_of_le_limit low]
  simp only [readWithin, FunctionBody.readFront, bind_assoc, pure_bind]
  refine (takes_offset.mpr ⟨rfl, rfl⟩).thenFails ?_
  refine StoredBody.fails_after_opening valid decoded fits openingHeld ?_
  refine Reader.Fails.followed ?_ _
  refine (Header.integerField_decodes valid).thenFails fits.constants.1 countHeld ?_
  exact decoded.constants.items_fails earlierFit earlierHeld more failed

/-- A constant that cannot be read decides how the tree fails, if the tree is there up to it. -/
theorem Prototype.fails_at_constant (valid : header.Valid) (decoded : vocabulary.Decoded header)
    (options : Options) {whole : Buffer} {depth : Int} {root : StoredFunction σ κ}
    (fits : root.Fits header vocabulary) (low : depth + root.height ≤ nestingLimit)
    (held : whole.Holds start (root.encode header vocabulary))
    {place : StoredFunction.Place σ κ}
    (member : place ∈ root.places header vocabulary depth start) {index : Nat} {constant : κ}
    (found : place.function.body.constants[index]? = some constant)
    (agree : buffer.AgreesBefore whole (place.constantStart header vocabulary index))
    (failed : (Constant.read header).Fails buffer (place.constantStart header vocabulary index)
      fault stop) :
    (read header options depth).Fails buffer start fault stop := by
  have bodyFits := (StoredFunction.fits_of_mem_places fits member).body
  obtain ⟨inside, -⟩ := List.getElem?_eq_some_iff.mp found
  have beforeHeld := (StoredFunction.holds_constant held member found).1
  have failedThere : (read header options place.depth).Fails buffer place.start fault stop :=
    fails_in_constants valid decoded options (StoredFunction.depth_le_of_mem_places low member)
      bodyFits inside (agree.holds beforeHeld (Nat.le_refl _)) failed
  obtain ⟨earlier, later, split⟩ := List.append_of_mem member
  refine fails_at_place valid decoded options agree fits held split ?_ (Nat.le_add_right _ _)
    failedThere
  intro passed passedBefore
  have passedMember : passed ∈ root.places header vocabulary depth start :=
    split ▸ List.mem_append_left _ passedBefore
  exact StoredFunction.depth_le_of_mem_places low passedMember

end LuaBytecode
