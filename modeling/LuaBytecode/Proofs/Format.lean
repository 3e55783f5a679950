import LuaBytecode.Proofs.Reading

/-!
# Storage formats

A format says how the values of a type are written as bytes, and which of them can be written at
all. A reader *decodes* a format if it succeeds on every written value, whatever follows it, and
gives the value's meaning; it *accepts only* the format if it succeeds nowhere else. A format is
*unambiguous* if the first written value at a place, and where it ends, can be told from the bytes.
-/

set_option autoImplicit false

namespace LuaBytecode

/-- How the values of type `τ` are stored. -/
structure Format (τ : Type) where
  encode : τ → Bytes
  Fits : τ → Prop

namespace Format

variable {τ : Type}

/-- Two stored values that start at the same place are equal, and so is what follows them. -/
def Unambiguous (format : Format τ) : Prop :=
  ∀ ⦃left right : τ⦄ ⦃after after' : Bytes⦄, format.Fits left → format.Fits right →
    format.encode left ++ after = format.encode right ++ after' → left = right ∧ after = after'

def integer (order : ByteOrder) (width : Nat) : Format Nat where
  encode := order.field width
  Fits value := value < Bytes.capacity width

theorem integer_unambiguous (order : ByteOrder) (width : Nat) :
    (integer order width).Unambiguous := by
  intro left right after after' leftFits rightFits same
  have sameLength : (order.field width left).length = (order.field width right).length := by
    rw [order.length_field, order.length_field]
  obtain ⟨sameField, sameAfter⟩ := List.append_inj same sameLength
  have sameValue : order.unsigned (order.field width left) =
      order.unsigned (order.field width right) := congrArg order.unsigned sameField
  rw [order.unsigned_field leftFits, order.unsigned_field rightFits] at sameValue
  exact ⟨sameValue, sameAfter⟩

def counted (count : Format Nat) (item : Format τ) : Format (List τ) where
  encode items := count.encode items.length ++ items.flatMap item.encode
  Fits items := count.Fits items.length ∧ ∀ value ∈ items, item.Fits value

private theorem flatMap_unambiguous {item : Format τ} (unambiguous : item.Unambiguous)
    {left right : List τ} {after after' : Bytes} (sameLength : left.length = right.length)
    (leftFits : ∀ value ∈ left, item.Fits value) (rightFits : ∀ value ∈ right, item.Fits value)
    (same : left.flatMap item.encode ++ after = right.flatMap item.encode ++ after') :
    left = right ∧ after = after' := by
  induction left generalizing right with
  | nil =>
      cases right with
      | nil => exact ⟨rfl, same⟩
      | cons head tail => cases sameLength
  | cons head tail ih =>
      cases right with
      | nil => cases sameLength
      | cons head' tail' =>
          simp only [List.flatMap_cons, List.append_assoc] at same
          obtain ⟨rfl, sameTail⟩ := unambiguous (leftFits head List.mem_cons_self)
            (rightFits head' List.mem_cons_self) same
          obtain ⟨rfl, sameAfter⟩ := ih (Nat.succ.inj sameLength)
            (fun value member => leftFits value (List.mem_cons_of_mem _ member))
            (fun value member => rightFits value (List.mem_cons_of_mem _ member)) sameTail
          exact ⟨rfl, sameAfter⟩

theorem counted_unambiguous {count : Format Nat} {item : Format τ}
    (countUnambiguous : count.Unambiguous) (itemUnambiguous : item.Unambiguous) :
    (counted count item).Unambiguous := by
  intro left right after after' leftFits rightFits same
  simp only [counted, List.append_assoc] at same
  obtain ⟨sameLength, sameItems⟩ := countUnambiguous leftFits.1 rightFits.1 same
  exact flatMap_unambiguous itemUnambiguous sameLength leftFits.2 rightFits.2 sameItems

end Format

namespace Reader

variable {α β τ : Type}

/-- Wherever a value of the format stands, the reader succeeds with its meaning and stops right
after it. -/
def Decodes (reader : Reader α) (format : Format τ) (meaning : τ → α) : Prop :=
  ∀ ⦃value : τ⦄ ⦃buffer : Buffer⦄ ⦃start : Nat⦄, format.Fits value →
    buffer.Holds start (format.encode value) →
    reader.Takes buffer start (meaning value) (start + (format.encode value).length)

/-- Wherever the reader succeeds, a value of the format stands, the result is its meaning and the
cursor is left right after it. -/
def AcceptsOnly (reader : Reader α) (format : Format τ) (meaning : τ → α) : Prop :=
  ∀ ⦃result : α⦄ ⦃buffer : Buffer⦄ ⦃start stop : Nat⦄, reader.Takes buffer start result stop →
    ∃ value, format.Fits value ∧ buffer.Holds start (format.encode value) ∧
      stop = start + (format.encode value).length ∧ meaning value = result

variable {format : Format τ} {meaning : τ → α} {reader : Reader α}

theorem Decodes.followed {next : α → Reader β} {value : τ} {result : β} {buffer : Buffer}
    {start stop : Nat} (decodes : reader.Decodes format meaning) (fits : format.Fits value)
    (held : buffer.Holds start (format.encode value))
    (rest : (next (meaning value)).Takes buffer (start + (format.encode value).length) result
      stop) :
    (reader >>= next).Takes buffer start result stop :=
  takes_bind.mpr ⟨_, _, decodes fits held, rest⟩

theorem AcceptsOnly.followed {next : α → Reader β} {result : β} {buffer : Buffer}
    {start stop : Nat} (accepts : reader.AcceptsOnly format meaning)
    (taken : (reader >>= next).Takes buffer start result stop) :
    ∃ value, format.Fits value ∧ buffer.Holds start (format.encode value) ∧
      (next (meaning value)).Takes buffer (start + (format.encode value).length) result stop := by
  obtain ⟨_, _, first, rest⟩ := takes_bind.mp taken
  obtain ⟨value, fits, held, rfl, rfl⟩ := accepts first
  exact ⟨value, fits, held, rest⟩

theorem Decodes.map (decodes : reader.Decodes format meaning) (use : α → β) :
    Reader.Decodes (do
      let value ← reader
      return use value) format (fun value => use (meaning value)) := by
  intro value buffer start fits held
  exact decodes.followed fits held (takes_pure.mpr ⟨rfl, rfl⟩)

theorem AcceptsOnly.map (accepts : reader.AcceptsOnly format meaning) (use : α → β) :
    Reader.AcceptsOnly (do
      let value ← reader
      return use value) format (fun value => use (meaning value)) := by
  intro result buffer start stop taken
  obtain ⟨value, fits, held, rest⟩ := accepts.followed taken
  obtain ⟨rfl, rfl⟩ := takes_pure.mp rest
  exact ⟨value, fits, held, rfl, rfl⟩

/-- A reader that decodes a format decodes every part of it, where the values may be seen in another
way. -/
theorem Decodes.part {ρ : Type} {fine : Format ρ} {sense : ρ → α}
    (decodes : reader.Decodes format meaning) (embed : ρ → τ)
    (embedded : ∀ value, fine.Fits value → format.Fits (embed value) ∧
      fine.encode value = format.encode (embed value) ∧ meaning (embed value) = sense value) :
    reader.Decodes fine sense := by
  intro value buffer start fits held
  obtain ⟨embedFits, sameBytes, sameMeaning⟩ := embedded value fits
  rw [sameBytes] at held
  rw [sameBytes, ← sameMeaning]
  exact decodes embedFits held

/-! ## Integers -/

theorem unsigned_decodes {width : Int} (order : ByteOrder) (positive : 1 ≤ width) :
    (unsigned width order).Decodes (Format.integer order width.toNat) id := by
  intro value buffer start fits held
  have stop : (order.field width.toNat value).length = width.toNat := order.length_field _ _
  exact (takes_unsigned positive).mpr ⟨fits, held, congrArg (start + ·) stop⟩

theorem unsigned_acceptsOnly {width : Int} (order : ByteOrder) (positive : 1 ≤ width) :
    (unsigned width order).AcceptsOnly (Format.integer order width.toNat) id := by
  intro value buffer start stop taken
  obtain ⟨fits, held, rfl⟩ := (takes_unsigned positive).mp taken
  exact ⟨value, fits, held, congrArg (start + ·) (order.length_field _ _).symm, rfl⟩

/-! ## Counted lists -/

private theorem takes_items (decodes : reader.Decodes format meaning) {buffer : Buffer}
    {values : List τ} {start : Nat} (fit : ∀ value ∈ values, format.Fits value)
    (held : buffer.Holds start (values.flatMap format.encode)) :
    (items reader values.length).Takes buffer start (values.map meaning)
      (start + (values.flatMap format.encode).length) := by
  induction values generalizing start with
  | nil => exact takes_pure.mpr ⟨rfl, rfl⟩
  | cons first rest ih =>
      rw [List.flatMap_cons, Buffer.holds_append] at held
      have firstFits := fit first List.mem_cons_self
      have restTaken := ih (fun value member => fit value (List.mem_cons_of_mem _ member)) held.2
      rw [Nat.add_assoc, ← List.length_append, ← List.flatMap_cons] at restTaken
      exact decodes.followed firstFits held.1
        (takes_bind.mpr ⟨_, _, restTaken, takes_pure.mpr ⟨rfl, rfl⟩⟩)

private theorem items_acceptsOnly (accepts : reader.AcceptsOnly format meaning) {buffer : Buffer}
    {count start stop : Nat} {results : List α}
    (taken : (items reader count).Takes buffer start results stop) :
    ∃ values : List τ, values.length = count ∧ (∀ value ∈ values, format.Fits value) ∧
      buffer.Holds start (values.flatMap format.encode) ∧
      stop = start + (values.flatMap format.encode).length ∧ values.map meaning = results := by
  induction count generalizing start results with
  | zero =>
      obtain ⟨rfl, rfl⟩ := takes_pure.mp taken
      exact ⟨[], rfl, by simp, by simp, rfl, rfl⟩
  | succ count ih =>
      obtain ⟨first, firstFits, firstHeld, taken⟩ := accepts.followed taken
      obtain ⟨_, _, restTaken, taken⟩ := takes_bind.mp taken
      obtain ⟨rfl, rfl⟩ := takes_pure.mp taken
      obtain ⟨rest, rfl, restFit, restHeld, rfl, rfl⟩ := ih restTaken
      refine ⟨first :: rest, rfl, ?_, Buffer.holds_append.mpr ⟨firstHeld, restHeld⟩, ?_, rfl⟩
      · exact List.forall_mem_cons.mpr ⟨firstFits, restFit⟩
      · rw [List.flatMap_cons, List.length_append, Nat.add_assoc]

theorem Decodes.counted {counting : Reader Nat} {count : Format Nat}
    (decodesCount : counting.Decodes count id) (decodes : reader.Decodes format meaning) :
    Reader.Decodes (do
      let number ← counting
      items reader number) (Format.counted count format) (List.map meaning) := by
  intro values buffer start fits held
  obtain ⟨countHeld, itemsHeld⟩ := Buffer.holds_append.mp held
  have itemsTaken := takes_items decodes fits.2 itemsHeld
  rw [Nat.add_assoc, ← List.length_append] at itemsTaken
  exact decodesCount.followed fits.1 countHeld itemsTaken

theorem AcceptsOnly.counted {counting : Reader Nat} {count : Format Nat}
    (acceptsCount : counting.AcceptsOnly count id) (accepts : reader.AcceptsOnly format meaning) :
    Reader.AcceptsOnly (do
      let number ← counting
      items reader number) (Format.counted count format) (List.map meaning) := by
  intro results buffer start stop taken
  obtain ⟨number, countFits, countHeld, itemsTaken⟩ := acceptsCount.followed taken
  obtain ⟨values, rfl, fit, itemsHeld, rfl, rfl⟩ := items_acceptsOnly accepts itemsTaken
  refine ⟨values, ⟨countFits, fit⟩, Buffer.holds_append.mpr ⟨countHeld, itemsHeld⟩, ?_, rfl⟩
  rw [Format.counted, List.length_append, Nat.add_assoc]

end Reader

end LuaBytecode
