/-!
# Work that can fail

What is known of a sequence of steps from what is known of each of them: when it gives a result, and
in which way alone it can fail.
-/

set_option autoImplicit false

namespace LuaBytecode

variable {ε δ α β γ : Type}

theorem bind_eq_ok {first : Except ε α} {next : α → Except ε β} {result : β} :
    (first >>= next) = .ok result ↔ ∃ value, first = .ok value ∧ next value = .ok result := by
  cases first with
  | error failure =>
      constructor
      · intro absurd
        cases absurd
      · rintro ⟨_, absurd, -⟩
        cases absurd
  | ok value =>
      constructor
      · exact fun succeeded => ⟨value, rfl, succeeded⟩
      · rintro ⟨_, ⟨⟩, succeeded⟩
        exact succeeded

theorem mapError_eq_ok {result : Except ε α} {seen : ε → δ} {value : α} :
    result.mapError seen = .ok value ↔ result = .ok value := by
  cases result with
  | error failure =>
      constructor
      · intro absurd
        cases absurd
      · intro absurd
        cases absurd
  | ok other =>
      constructor
      · intro same
        cases same
        rfl
      · intro same
        cases same
        rfl

theorem mapError_eq_error {result : Except ε α} {seen : ε → δ} :
    (∃ failure, result.mapError seen = .error failure) ↔ ¬∃ value, result = .ok value := by
  cases result with
  | error failure =>
      refine ⟨?_, fun _ => ⟨_, rfl⟩⟩
      rintro - ⟨_, absurd⟩
      cases absurd
  | ok value =>
      refine ⟨?_, fun none => absurd ⟨value, rfl⟩ none⟩
      rintro ⟨_, absurd⟩
      cases absurd

/-! ## Results -/

def Succeeds (work : Except ε α) : Prop :=
  ∃ result, work = .ok result

/-- Work whose last step cannot fail. -/
theorem succeeds_bind_pure {first : Except ε α} {result : α → β} :
    Succeeds (first >>= fun value => pure (result value)) ↔ Succeeds first := by
  simp only [Succeeds, bind_eq_ok]
  constructor
  · rintro ⟨_, value, found, -⟩
    exact ⟨value, found⟩
  · rintro ⟨value, found⟩
    exact ⟨_, value, found, rfl⟩

/-- Two pieces of work of which neither needs the other. -/
theorem succeeds_both {first : Except ε α} {second : Except ε β} {result : α → β → γ} :
    Succeeds (first >>= fun left => second >>= fun right => pure (result left right)) ↔
      Succeeds first ∧ Succeeds second := by
  simp only [Succeeds, bind_eq_ok]
  constructor
  · rintro ⟨_, left, leftFound, right, rightFound, -⟩
    exact ⟨⟨left, leftFound⟩, right, rightFound⟩
  · rintro ⟨⟨left, leftFound⟩, right, rightFound⟩
    exact ⟨_, left, leftFound, right, rightFound, rfl⟩

/-! ## The only failure -/

/-- Some work that gives a result, or fails in the way that is named. -/
def FailsOnlyWith (failure : ε) (work : Except ε α) : Prop :=
  ∀ other, work = .error other → other = failure

namespace FailsOnlyWith

variable {failure : ε}

theorem of_succeeds {work : Except ε α} (succeeds : Succeeds work) :
    FailsOnlyWith failure work := by
  obtain ⟨result, rfl⟩ := succeeds
  rintro _ ⟨⟩

theorem bind {first : Except ε α} {next : α → Except ε β} (before : FailsOnlyWith failure first)
    (after : ∀ value, FailsOnlyWith failure (next value)) :
    FailsOnlyWith failure (first >>= next) := by
  cases first with
  | error other =>
      rintro _ ⟨⟩
      exact before other rfl
  | ok value => exact after value

/-- The last step of some work cannot fail. -/
theorem bind_pure {first : Except ε α} {result : α → β} (before : FailsOnlyWith failure first) :
    FailsOnlyWith failure (first >>= fun value => pure (result value)) :=
  before.bind fun _ => of_succeeds ⟨_, rfl⟩

theorem map {first : Except ε α} {result : α → β} (before : FailsOnlyWith failure first) :
    FailsOnlyWith failure (first.map result) := by
  cases first with
  | error other =>
      rintro _ ⟨⟩
      exact before other rfl
  | ok value => exact of_succeeds ⟨_, rfl⟩

end FailsOnlyWith

end LuaBytecode
