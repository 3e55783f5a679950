import LuaBytecode.Proofs.Format

/-!
# Failed reads

The counterpart of successful reads. `Reader.Fails` relates the cursor before a read to the fault
and to the cursor where it was found. A sequence of reads fails with the first of its parts that
fails, the parts before it having succeeded; so a list of items fails where one of its items does.
-/

set_option autoImplicit false

namespace LuaBytecode

/-- The two buffers have the same bytes before the cursor. -/
def Buffer.AgreesBefore (left right : Buffer) (cut : Nat) : Prop :=
  left.toList.take cut = right.toList.take cut

theorem Buffer.AgreesBefore.holds {left right : Buffer} {cut start : Nat} {bytes : Bytes}
    (agree : left.AgreesBefore right cut) (held : right.Holds start bytes)
    (within : start + bytes.length ≤ cut) : left.Holds start bytes := by
  have short : bytes.length ≤ cut - start := by omega
  have heldBefore : bytes <+: (right.toList.drop start).take (cut - start) :=
    List.prefix_take_iff.mpr ⟨held, short⟩
  rw [← List.drop_take, ← agree, List.drop_take] at heldBefore
  exact heldBefore.trans (List.take_prefix _ _)

namespace Reader

variable {α β τ : Type} {buffer : Buffer} {start stop : Nat} {fault : Fault}

/-- The reader fails at `start` with the given fault and leaves the cursor at `stop`. -/
def Fails (reader : Reader α) (buffer : Buffer) (start : Nat) (fault : Fault) (stop : Nat) : Prop :=
  (reader buffer start).result = .error fault ∧ (reader buffer start).offset = stop

theorem fails_fail {cause : Fault} :
    (fail cause : Reader α).Fails buffer start fault stop ↔ cause = fault ∧ start = stop := by
  simp [Fails, fail]

theorem fails_bind {first : Reader α} {next : α → Reader β} :
    (first >>= next).Fails buffer start fault stop ↔
      first.Fails buffer start fault stop ∨
        ∃ value middle, first.Takes buffer start value middle ∧
          (next value).Fails buffer middle fault stop := by
  cases outcome : (first buffer start).result with
  | error found => simp [Fails, Takes, bind_of_error outcome, outcome]
  | ok value =>
      simp only [Fails, Takes, bind_of_ok outcome, outcome, reduceCtorEq, false_and, false_or,
        Except.ok.injEq]
      constructor
      · rintro ⟨failed, stopped⟩
        exact ⟨value, _, ⟨rfl, rfl⟩, failed, stopped⟩
      · rintro ⟨_, _, ⟨rfl, rfl⟩, rest⟩
        exact rest

theorem Fails.followed {first : Reader α} (failed : first.Fails buffer start fault stop)
    (next : α → Reader β) : (first >>= next).Fails buffer start fault stop :=
  fails_bind.mpr (.inl failed)

theorem Takes.thenFails {first : Reader α} {next : α → Reader β} {value : α} {middle : Nat}
    (taken : first.Takes buffer start value middle)
    (failed : (next value).Fails buffer middle fault stop) :
    (first >>= next).Fails buffer start fault stop :=
  fails_bind.mpr (.inr ⟨value, middle, taken, failed⟩)

variable {format : Format τ} {meaning : τ → α} {reader : Reader α}

theorem Decodes.thenFails {next : α → Reader β} {value : τ}
    (decodes : reader.Decodes format meaning) (fits : format.Fits value)
    (held : buffer.Holds start (format.encode value))
    (failed : (next (meaning value)).Fails buffer (start + (format.encode value).length) fault
      stop) :
    (reader >>= next).Fails buffer start fault stop :=
  (decodes fits held).thenFails failed

/-- Items that can be read do not hide the failure of the one after them. -/
theorem Decodes.items_fails (decodes : reader.Decodes format meaning) {values : List τ}
    {count : Nat} (fit : ∀ value ∈ values, format.Fits value)
    (held : buffer.Holds start (values.flatMap format.encode)) (more : values.length < count)
    (failed : reader.Fails buffer (start + (values.flatMap format.encode).length) fault stop) :
    (items reader count).Fails buffer start fault stop := by
  induction values generalizing start count with
  | nil =>
      cases count with
      | zero => cases more
      | succ count => exact failed.followed _
  | cons first rest ih =>
      obtain ⟨firstFits, restFit⟩ := List.forall_mem_cons.mp fit
      rw [List.flatMap_cons, Buffer.holds_append] at held
      rw [List.flatMap_cons, List.length_append, ← Nat.add_assoc] at failed
      cases count with
      | zero => cases more
      | succ count =>
          refine decodes.thenFails firstFits held.1 ?_
          exact (ih restFit held.2 (Nat.lt_of_succ_lt_succ more) failed).followed _

end Reader

end LuaBytecode
