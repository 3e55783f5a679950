import LuaBytecode.Proofs.StoredFunction.Basic
import LuaBytecode.Prototype.Reader

/-!
# Reading stored functions

The reader of prototypes against the format of stored functions, for any vocabulary whose strings
and constants are read rightly. Everything is by induction on the number of levels that may still be
entered, which is the recursion of the reader itself: the nested functions have one level less, and
the lists they stand in are covered once for all kinds of items.
-/

set_option autoImplicit false

namespace LuaBytecode

open Reader (takes_bind takes_pure takes_offset takes_note takes_noteIf takes_fail takes_byte_bind)

variable {σ κ : Type} {header : Header} {vocabulary : Vocabulary σ κ}

namespace Vocabulary

/-- Strings and constants are read wherever they stand. -/
structure Decoded (vocabulary : Vocabulary σ κ) (header : Header) : Prop where
  strings : header.stringField.Decodes vocabulary.strings vocabulary.text
  constants : (Constant.read header).Decodes vocabulary.constants vocabulary.constant

/-- Nothing else is read as a string or a constant. -/
structure Exhaustive (vocabulary : Vocabulary σ κ) (header : Header) : Prop where
  strings : header.stringField.AcceptsOnly vocabulary.strings vocabulary.text
  constants : (Constant.read header).AcceptsOnly vocabulary.constants vocabulary.constant

/-- Strings and constants can be told apart from what follows them. -/
structure Unambiguous (vocabulary : Vocabulary σ κ) : Prop where
  strings : vocabulary.strings.Unambiguous
  constants : vocabulary.constants.Unambiguous

theorem Decoded.names (decoded : vocabulary.Decoded header) :
    header.nameField.Decodes vocabulary.strings vocabulary.name :=
  decoded.strings.map Bytes.latin1

theorem Exhaustive.names (exhaustive : vocabulary.Exhaustive header) :
    header.nameField.AcceptsOnly vocabulary.strings vocabulary.name :=
  exhaustive.strings.map Bytes.latin1

end Vocabulary

/-! ## Instructions -/

private theorem Instruction.read_eq (header : Header) :
    Instruction.read header = do
      let word ← Reader.unsigned header.widths.instruction header.order
      Reader.noteIf (!(ofWord word).isKnown) (.unknownOpcode (ofWord word).opcode)
      return ofWord word := by
  simp only [Instruction.read, Reader.unsigned, ofBytes, bind_assoc, pure_bind]

theorem Instruction.read_decodes (valid : header.Valid) :
    (Instruction.read header).Decodes header.words (fun word => Instruction.ofWord word) := by
  intro word buffer start fits held
  rw [Instruction.read_eq]
  refine (Reader.unsigned_decodes header.order valid.instruction.1).followed fits held ?_
  refine takes_bind.mpr ⟨(), _, takes_noteIf.mpr rfl, ?_⟩
  exact takes_pure.mpr ⟨rfl, rfl⟩

theorem Instruction.read_acceptsOnly (valid : header.Valid) :
    (Instruction.read header).AcceptsOnly header.words (fun word => Instruction.ofWord word) := by
  intro result buffer start stop taken
  rw [Instruction.read_eq] at taken
  obtain ⟨word, fits, held, taken⟩ :=
    (Reader.unsigned_acceptsOnly header.order valid.instruction.1).followed taken
  obtain ⟨_, _, noted, taken⟩ := takes_bind.mp taken
  obtain rfl := takes_noteIf.mp noted
  obtain ⟨rfl, rfl⟩ := takes_pure.mp taken
  exact ⟨word, fits, held, rfl, rfl⟩

/-! ## Local variables -/

theorem Local.read_decodes (valid : header.Valid) (decoded : vocabulary.Decoded header) :
    (Local.read header).Decodes (vocabulary.locals header) (StoredLocal.meaning vocabulary) := by
  intro stored buffer start fits held
  simp only [Vocabulary.locals, List.append_assoc, Buffer.holds_append] at held
  obtain ⟨name, startpc, endpc⟩ := held
  refine decoded.names.followed fits.1 name ?_
  refine (Header.integerField_decodes valid).followed fits.2.1 startpc ?_
  refine (Header.integerField_decodes valid).followed fits.2.2 endpc ?_
  refine takes_pure.mpr ⟨rfl, ?_⟩
  simp only [Vocabulary.locals, List.length_append, Nat.add_assoc]

theorem Local.read_acceptsOnly (valid : header.Valid) (exhaustive : vocabulary.Exhaustive header) :
    (Local.read header).AcceptsOnly (vocabulary.locals header)
      (StoredLocal.meaning vocabulary) := by
  intro result buffer start stop taken
  obtain ⟨name, nameFits, nameHeld, taken⟩ := exhaustive.names.followed taken
  obtain ⟨startpc, startFits, startHeld, taken⟩ :=
    (Header.integerField_acceptsOnly valid).followed taken
  obtain ⟨endpc, endFits, endHeld, taken⟩ := (Header.integerField_acceptsOnly valid).followed taken
  obtain ⟨rfl, rfl⟩ := takes_pure.mp taken
  refine ⟨⟨name, startpc, endpc⟩, ⟨nameFits, startFits, endFits⟩, ?_, ?_, rfl⟩
  · simp only [Vocabulary.locals, List.append_assoc, Buffer.holds_append]
    exact ⟨nameHeld, startHeld, endHeld⟩
  · simp only [Vocabulary.locals, List.length_append, Nat.add_assoc]

theorem Vocabulary.Unambiguous.locals (unambiguous : vocabulary.Unambiguous) (header : Header) :
    (vocabulary.locals header).Unambiguous := by
  rintro ⟨name, startpc, endpc⟩ ⟨name', startpc', endpc'⟩ after after' fits fits' same
  simp only [Vocabulary.locals, List.append_assoc] at same
  obtain ⟨rfl, fromStart⟩ := unambiguous.strings fits.1 fits'.1 same
  obtain ⟨rfl, fromEnd⟩ := Format.integer_unambiguous _ _ fits.2.1 fits'.2.1 fromStart
  obtain ⟨rfl, sameAfter⟩ := Format.integer_unambiguous _ _ fits.2.2 fits'.2.2 fromEnd
  exact ⟨rfl, sameAfter⟩

/-! ## Functions -/

/-- Every stored function is read, if it has fewer levels than may be entered. -/
theorem Prototype.readWithin_decodes (valid : header.Valid) (decoded : vocabulary.Decoded header)
    (options : Options) (levels : Nat) (depth : Int) :
    (Prototype.readWithin header options levels depth).Decodes
      (StoredFunction.within header vocabulary levels)
      (StoredFunction.meaning vocabulary options) := by
  induction levels generalizing depth with
  | zero =>
      intro function buffer start fits held
      exact absurd fits.2 (Nat.not_lt_zero _)
  | succ levels ih =>
      rintro ⟨body, functions⟩ buffer start fits held
      obtain ⟨bodyFits, nestedFit⟩ := (StoredFunction.fits_within_succ header vocabulary).mp fits
      rw [StoredFunction.encode_within_succ] at held ⊢
      simp only [StoredBody.front, StoredBody.back, List.append_assoc, List.cons_append,
        List.nil_append, Buffer.holds_append, Buffer.holds_cons] at held
      obtain ⟨source, lineDefined, lastLineDefined, upvalueCount, paramCount, vararg, maxStackSize,
        words, constants, nested, linePositions, locals, upvalues⟩ := held
      have integers := Header.integerField_decodes valid
      simp only [readWithin, FunctionBody.readFront, FunctionBody.readBack, bind_assoc, pure_bind]
      refine takes_bind.mpr ⟨_, _, takes_offset.mpr ⟨rfl, rfl⟩, ?_⟩
      refine decoded.names.followed bodyFits.source source ?_
      refine integers.followed bodyFits.lineDefined lineDefined ?_
      refine integers.followed bodyFits.lastLineDefined lastLineDefined ?_
      refine takes_byte_bind.mpr ⟨_, upvalueCount, ?_⟩
      refine takes_byte_bind.mpr ⟨_, paramCount, ?_⟩
      refine takes_byte_bind.mpr ⟨_, vararg, ?_⟩
      refine takes_byte_bind.mpr ⟨_, maxStackSize, ?_⟩
      refine (Header.counted_decodes valid (Instruction.read_decodes valid)).followed
        bodyFits.words words ?_
      refine (Header.counted_decodes valid decoded.constants).followed
        bodyFits.constants constants ?_
      refine (Header.counted_decodes valid (ih (depth + 1))).followed nestedFit nested ?_
      refine (Header.counted_decodes valid integers).followed
        bodyFits.linePositions linePositions ?_
      refine (Header.counted_decodes valid (Local.read_decodes valid decoded)).followed
        bodyFits.locals locals ?_
      refine (Header.counted_decodes valid decoded.names).followed bodyFits.upvalues upvalues ?_
      refine takes_bind.mpr ⟨_, _, takes_offset.mpr ⟨rfl, rfl⟩, ?_⟩
      refine takes_bind.mpr ⟨(), _, takes_note.mpr rfl, ?_⟩
      refine takes_pure.mpr ⟨?_, ?_⟩
      · simp only [StoredFunction.meaning, StoredFunction.meaningAll_eq_map, StoredBody.meaning,
          List.map_id, id]
      · simp only [StoredBody.front, StoredBody.back, List.length_append, List.length_cons,
          List.length_nil]
        omega

theorem Prototype.readWithin_acceptsOnly (valid : header.Valid)
    (exhaustive : vocabulary.Exhaustive header) (options : Options) (levels : Nat) (depth : Int) :
    (Prototype.readWithin header options levels depth).AcceptsOnly
      (StoredFunction.within header vocabulary levels)
      (StoredFunction.meaning vocabulary options) := by
  induction levels generalizing depth with
  | zero =>
      intro result buffer start stop taken
      obtain ⟨_, _, _, taken⟩ := takes_bind.mp taken
      exact absurd taken takes_fail
  | succ levels ih =>
      intro result buffer start stop taken
      have integers := Header.integerField_acceptsOnly valid
      simp only [readWithin, FunctionBody.readFront, FunctionBody.readBack, bind_assoc, pure_bind]
        at taken
      obtain ⟨_, _, cursor, taken⟩ := takes_bind.mp taken
      obtain ⟨rfl, rfl⟩ := takes_offset.mp cursor
      obtain ⟨source, sourceFits, sourceHeld, taken⟩ := exhaustive.names.followed taken
      obtain ⟨lineDefined, lineFits, lineHeld, taken⟩ := integers.followed taken
      obtain ⟨lastLineDefined, lastLineFits, lastLineHeld, taken⟩ := integers.followed taken
      obtain ⟨upvalueCount, upvalueCountHeld, taken⟩ := takes_byte_bind.mp taken
      obtain ⟨paramCount, paramCountHeld, taken⟩ := takes_byte_bind.mp taken
      obtain ⟨vararg, varargHeld, taken⟩ := takes_byte_bind.mp taken
      obtain ⟨maxStackSize, maxStackSizeHeld, taken⟩ := takes_byte_bind.mp taken
      obtain ⟨words, wordsFit, wordsHeld, taken⟩ :=
        (Header.counted_acceptsOnly valid (Instruction.read_acceptsOnly valid)).followed taken
      obtain ⟨constants, constantsFit, constantsHeld, taken⟩ :=
        (Header.counted_acceptsOnly valid exhaustive.constants).followed taken
      obtain ⟨functions, nestedFit, nestedHeld, taken⟩ :=
        (Header.counted_acceptsOnly valid (ih (depth + 1))).followed taken
      obtain ⟨linePositions, linesFit, linesHeld, taken⟩ :=
        (Header.counted_acceptsOnly valid integers).followed taken
      obtain ⟨locals, localsFit, localsHeld, taken⟩ :=
        (Header.counted_acceptsOnly valid (Local.read_acceptsOnly valid exhaustive)).followed taken
      obtain ⟨upvalues, upvaluesFit, upvaluesHeld, taken⟩ :=
        (Header.counted_acceptsOnly valid exhaustive.names).followed taken
      obtain ⟨_, _, cursor, taken⟩ := takes_bind.mp taken
      obtain ⟨rfl, rfl⟩ := takes_offset.mp cursor
      obtain ⟨_, _, noted, taken⟩ := takes_bind.mp taken
      obtain rfl := takes_note.mp noted
      obtain ⟨rfl, rfl⟩ := takes_pure.mp taken
      let body : StoredBody σ κ := {
        source, lineDefined, lastLineDefined, upvalueCount, paramCount, vararg, maxStackSize
        words, constants, linePositions, locals, upvalues }
      have bodyFits : body.Fits header vocabulary :=
        ⟨sourceFits, lineFits, lastLineFits, wordsFit, constantsFit, linesFit, localsFit,
          upvaluesFit⟩
      refine ⟨⟨body, functions⟩,
        (StoredFunction.fits_within_succ header vocabulary).mpr ⟨bodyFits, nestedFit⟩, ?_, ?_, ?_⟩
      · rw [StoredFunction.encode_within_succ]
        simp only [StoredBody.front, StoredBody.back, List.append_assoc, List.cons_append,
          List.nil_append, Buffer.holds_append, Buffer.holds_cons]
        exact ⟨sourceHeld, lineHeld, lastLineHeld, upvalueCountHeld, paramCountHeld, varargHeld,
          maxStackSizeHeld, wordsHeld, constantsHeld, nestedHeld, linesHeld, localsHeld,
          upvaluesHeld⟩
      · rw [StoredFunction.encode_within_succ]
        simp only [StoredBody.front, StoredBody.back, List.length_append, List.length_cons,
          List.length_nil, body]
        omega
      · simp only [StoredFunction.meaning, StoredFunction.meaningAll_eq_map, StoredBody.meaning,
          List.map_id, id, body]

/-- No bytes store two functions, nor one function with two ends. -/
theorem StoredFunction.within_unambiguous (unambiguous : vocabulary.Unambiguous) (header : Header)
    (levels : Nat) : (within header vocabulary levels).Unambiguous := by
  induction levels with
  | zero =>
      intro left right after after' leftFits rightFits same
      exact absurd leftFits.2 (Nat.not_lt_zero _)
  | succ levels ih =>
      rintro ⟨body, functions⟩ ⟨body', functions'⟩ after after' leftFits rightFits same
      obtain ⟨fits, nestedFit⟩ := (fits_within_succ header vocabulary).mp leftFits
      obtain ⟨fits', nestedFit'⟩ := (fits_within_succ header vocabulary).mp rightFits
      have integers : header.integers.Unambiguous := Format.integer_unambiguous _ _
      simp only [encode_within_succ, StoredBody.front, StoredBody.back, List.append_assoc,
        List.cons_append, List.nil_append] at same
      obtain ⟨source, same⟩ := unambiguous.strings fits.source fits'.source same
      obtain ⟨lineDefined, same⟩ := integers fits.lineDefined fits'.lineDefined same
      obtain ⟨lastLineDefined, same⟩ := integers fits.lastLineDefined fits'.lastLineDefined same
      simp only [List.cons.injEq] at same
      obtain ⟨upvalueCount, paramCount, vararg, maxStackSize, same⟩ := same
      obtain ⟨words, same⟩ :=
        Header.lists_unambiguous (Format.integer_unambiguous _ _) fits.words fits'.words same
      obtain ⟨constants, same⟩ :=
        Header.lists_unambiguous unambiguous.constants fits.constants fits'.constants same
      obtain ⟨functions, same⟩ := Header.lists_unambiguous ih nestedFit nestedFit' same
      obtain ⟨linePositions, same⟩ :=
        Header.lists_unambiguous integers fits.linePositions fits'.linePositions same
      obtain ⟨locals, same⟩ :=
        Header.lists_unambiguous (unambiguous.locals header) fits.locals fits'.locals same
      obtain ⟨upvalues, sameAfter⟩ :=
        Header.lists_unambiguous unambiguous.strings fits.upvalues fits'.upvalues same
      have sameBody : body = body' :=
        StoredBody.ext source lineDefined lastLineDefined upvalueCount paramCount vararg
          maxStackSize words constants linePositions locals upvalues
      rw [sameBody, functions]
      exact ⟨rfl, sameAfter⟩

end LuaBytecode
