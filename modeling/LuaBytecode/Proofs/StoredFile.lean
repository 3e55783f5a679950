import LuaBytecode.DecodedFile
import LuaBytecode.Proofs.StoredFunction.Reader

/-!
# Stored files

A file is a stored header and a stored function after it, followed by anything. Decoding succeeds on
every such file, provided the function is not nested too deeply, and on no other.
-/

set_option autoImplicit false

namespace LuaBytecode

open Reader (takes_bind takes_pure takes_offset takes_remaining takes_note takes_noteIf)

variable {σ κ : Type}

theorem Prototype.read_root (header : Header) (options : Options) :
    Prototype.read header options 0 = Prototype.readWithin header options (nestingLimit + 1) 0 :=
  rfl

/-- Decoding succeeds when the header and the root function are read one after the other; nothing
after them can make it fail. -/
theorem decode_eq_ok {data : Bytes} {options : Options} {file : DecodedFile} :
    (decode data options).result = .ok file ↔
      ∃ middle, Header.read.Takes data.toArray 0 file.header middle ∧
        (Prototype.read file.header options 0).Takes data.toArray middle file.tree file.consumed ∧
        file.options = options ∧ file.trailing = ((data.length : Int) - file.consumed).toNat := by
  have asTakes : (decode data options).result = .ok file ↔
      ∃ stop, (DecodedFile.read options).Takes data.toArray 0 file stop :=
    ⟨fun succeeded => ⟨_, succeeded, rfl⟩, fun ⟨_, succeeded, _⟩ => succeeded⟩
  rw [asTakes]
  constructor
  · rintro ⟨stop, taken⟩
    obtain ⟨header, middle, headerTaken, taken⟩ := takes_bind.mp taken
    obtain ⟨tree, _, treeTaken, taken⟩ := takes_bind.mp taken
    obtain ⟨_, _, remaining, taken⟩ := takes_bind.mp taken
    obtain ⟨rfl, rfl⟩ := takes_remaining.mp remaining
    obtain ⟨_, _, cursor, taken⟩ := takes_bind.mp taken
    obtain ⟨rfl, rfl⟩ := takes_offset.mp cursor
    obtain ⟨_, _, noted, taken⟩ := takes_bind.mp taken
    obtain rfl := takes_noteIf.mp noted
    obtain ⟨_, _, noted, taken⟩ := takes_bind.mp taken
    obtain rfl := takes_note.mp noted
    obtain ⟨rfl, rfl⟩ := takes_pure.mp taken
    exact ⟨middle, headerTaken, treeTaken, rfl, by simp⟩
  · obtain ⟨header, tree, chosen, consumed, trailing⟩ := file
    rintro ⟨middle, headerTaken, treeTaken, sameOptions, sameTrailing⟩
    dsimp only at headerTaken treeTaken sameOptions sameTrailing
    subst sameOptions sameTrailing
    refine ⟨consumed, takes_bind.mpr ⟨_, _, headerTaken, ?_⟩⟩
    refine takes_bind.mpr ⟨_, _, treeTaken, ?_⟩
    refine takes_bind.mpr ⟨_, _, takes_remaining.mpr ⟨rfl, rfl⟩, ?_⟩
    refine takes_bind.mpr ⟨_, _, takes_offset.mpr ⟨rfl, rfl⟩, ?_⟩
    refine takes_bind.mpr ⟨(), _, takes_noteIf.mpr rfl, ?_⟩
    refine takes_bind.mpr ⟨(), _, takes_note.mpr rfl, ?_⟩
    exact takes_pure.mpr ⟨by simp, rfl⟩

def StoredFunction.encodeFile (header : Header) (vocabulary : Vocabulary σ κ)
    (root : StoredFunction σ κ) : Bytes :=
  header.encode ++ root.encode header vocabulary

theorem decode_encodeFile {header : Header} {vocabulary : Vocabulary σ κ} (valid : header.Valid)
    (decoded : vocabulary.Decoded header) {root : StoredFunction σ κ}
    (fits : root.Fits header vocabulary) (low : root.height ≤ nestingLimit) (suffix : Bytes)
    (options : Options) :
    (decode (root.encodeFile header vocabulary ++ suffix) options).result = .ok {
      header, options
      tree := root.meaning vocabulary options
      consumed := (root.encodeFile header vocabulary).length
      trailing := suffix.length } := by
  have held : Buffer.Holds (root.encodeFile header vocabulary ++ suffix).toArray 0
      (header.encode ++ root.encode header vocabulary) := ⟨suffix, rfl⟩
  obtain ⟨headerHeld, rootHeld⟩ := Buffer.holds_append.mp held
  have rootFits : (StoredFunction.within header vocabulary (nestingLimit + 1)).Fits root :=
    ⟨fits, Nat.lt_succ_of_le low⟩
  have rootTaken := Prototype.readWithin_decodes valid decoded options _ 0 rootFits rootHeld
  refine decode_eq_ok.mpr ⟨_, Header.read_decodes valid headerHeld, ?_, rfl, ?_⟩
  · rw [StoredFunction.encodeFile, List.length_append, ← Nat.zero_add header.encode.length]
    exact rootTaken
  · simp only [List.length_append]
    omega

theorem encodeFile_of_decode {vocabulary : Header → Vocabulary σ κ}
    (exhaustive : ∀ header, header.Valid → (vocabulary header).Exhaustive header)
    {data : Bytes} {options : Options} {file : DecodedFile}
    (succeeded : (decode data options).result = .ok file) :
    ∃ (root : StoredFunction σ κ) (rest : Bytes),
      root.Fits file.header (vocabulary file.header) ∧ root.height ≤ nestingLimit ∧
      data = root.encodeFile file.header (vocabulary file.header) ++ rest ∧
      file.consumed = (root.encodeFile file.header (vocabulary file.header)).length ∧
      file.trailing = rest.length ∧
      file.tree = root.meaning (vocabulary file.header) options := by
  obtain ⟨middle, headerTaken, treeTaken, -, trailing⟩ := decode_eq_ok.mp succeeded
  obtain ⟨header, valid, headerHeld, rfl, same⟩ := Header.read_acceptsOnly headerTaken
  obtain rfl : header = file.header := same
  rw [Prototype.read_root] at treeTaken
  obtain ⟨root, ⟨fits, low⟩, rootHeld, consumed, tree⟩ :=
    Prototype.readWithin_acceptsOnly valid (exhaustive _ valid) options _ _ treeTaken
  obtain ⟨rest, found⟩ := Buffer.holds_append.mpr ⟨headerHeld, rootHeld⟩
  have contents : data = root.encodeFile file.header (vocabulary file.header) ++ rest := found.symm
  have stop : file.consumed = (root.encodeFile file.header (vocabulary file.header)).length := by
    rw [consumed, StoredFunction.encodeFile, List.length_append, Nat.zero_add]
    rfl
  refine ⟨root, rest, fits, Nat.le_of_lt_succ low, contents, stop, ?_, tree.symm⟩
  have lengths := congrArg List.length contents
  rw [List.length_append, ← stop] at lengths
  omega

end LuaBytecode
