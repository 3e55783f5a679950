import LuaBytecode.CommandLine.Basic

/-!
# Command lines of plain words

A command line that names its input first and then options by their full names is accepted, and
makes the choices that its options stand for.
-/

set_option autoImplicit false

namespace LuaBytecode.CommandLine

/-- The word is sorted as an argument wherever it stands before a separator. -/
structure IsArgument (word : String) : Prop where
  plain : word ≠ separatorWord
  sorted : word.toList.head? = some '-' → sortHyphened word = .ok (.argument word)

theorem isArgument_of_plain {word : String} (plain : word.toList.head? ≠ some '-') :
    IsArgument word := by
  refine ⟨?_, fun hyphened => absurd hyphened plain⟩
  intro separator
  subst separator
  exact plain rfl

/-- The words of options that say how a document is shown, with the choices before and after. -/
inductive Chooses : Choices → List String → Choices → Prop where
  | done (choices : Choices) : Chooses choices [] choices
  | stripDebugging {choices after : Choices} {words : List String}
      (rest : Chooses { choices with stripDebugging := true } words after) :
      Chooses choices ("--strip-debugging" :: words) after
  | instructionObjects {choices after : Choices} {words : List String}
      (rest : Chooses { choices with instructionObjects := true } words after) :
      Chooses choices ("--instruction-objects" :: words) after
  | listing {choices after : Choices} {words : List String}
      (rest : Chooses { choices with listing := true } words after) :
      Chooses choices ("--listing" :: words) after
  | indent {choices after : Choices} {word : String} {width : Int} {words : List String}
      (argument : IsArgument word) (number : Text.integer? word = some width)
      (rest : Chooses { choices with indent := .value width } words after) :
      Chooses choices ("--indent" :: word :: words) after

theorem Chooses.kept {choices after : Choices} {words : List String}
    (chosen : Chooses choices words after) :
    after.stdout = choices.stdout ∧ after.verbose = choices.verbose := by
  induction chosen with
  | done => exact ⟨rfl, rfl⟩
  | stripDebugging _ ih => exact ih
  | instructionObjects _ ih => exact ih
  | listing _ ih => exact ih
  | indent _ _ _ ih => exact ih

/-! ## Sorting -/

theorem sort_argument {word : String} (argument : IsArgument word) {words : List String}
    {tokens : List Token} (sorted : sort words = .ok tokens) :
    sort (word :: words) = .ok (.argument word :: tokens) := by
  rw [sort, if_neg argument.plain, sorted]
  split
  next hyphened =>
    rw [argument.sorted hyphened]
    rfl
  next => rfl

theorem sort_option {flag : Flag} {name : String} (only : flag.names = [name])
    {words : List String} {tokens : List Token} (sorted : sort words = .ok tokens) :
    sort (name :: words) = .ok (.long flag none :: tokens) := by
  obtain ⟨plain, hyphened, found⟩ : name ≠ separatorWord ∧ name.toList.head? = some '-' ∧
      sortHyphened name = .ok (.long flag none) := by
    cases flag <;> cases only <;> exact ⟨by decide, by decide, by rfl⟩
  rw [sort, if_neg plain, if_pos hyphened, found, sorted]
  rfl

/-! ## Acting -/

/-- A command line with its path has come to the given choices. -/
def reached (path : String) (choices : Choices) : Progress :=
  { path := some path, choices }

theorem Chooses.acts (path : String) {choices after : Choices} {words : List String}
    (chosen : Chooses choices words after) :
    ∃ tokens, sort words = .ok tokens ∧
      tokens.foldlM Progress.step (reached path choices) = .ok (reached path after) := by
  induction chosen with
  | done choices => exact ⟨[], rfl, rfl⟩
  | stripDebugging _ ih =>
      obtain ⟨tokens, sorted, acted⟩ := ih
      exact ⟨_, sort_option (rfl : Flag.stripDebugging.names = _) sorted, acted⟩
  | instructionObjects _ ih =>
      obtain ⟨tokens, sorted, acted⟩ := ih
      exact ⟨_, sort_option (rfl : Flag.instructionObjects.names = _) sorted, acted⟩
  | listing _ ih =>
      obtain ⟨tokens, sorted, acted⟩ := ih
      exact ⟨_, sort_option (rfl : Flag.listing.names = _) sorted, acted⟩
  | @indent choices after word width words argument number _ ih =>
      obtain ⟨tokens, sorted, acted⟩ := ih
      have sorted := sort_argument argument sorted
      refine ⟨_, sort_option (rfl : Flag.indent.names = _) sorted, ?_⟩
      have value : act choices ⟨.indent, some word⟩ =
          .ok { choices with indent := .value width } := by
        simp only [act, if_neg argument.plain, number]
      have taken : Progress.step { reached path choices with waiting := some ([], .indent) }
          (.argument word) = .ok (reached path { choices with indent := .value width }) := by
        simp only [Progress.step, List.nil_append, Progress.actAll, reached, value]
      show (Progress.step { reached path choices with waiting := some ([], .indent) }
        (.argument word)) >>= _ = _
      rw [taken]
      exact acted

/-- A command line that names its input, asks for the document on the standard output and chooses
how it is shown is accepted. -/
theorem parse_of_chooses {path : String} (argument : IsArgument path) {words : List String}
    {choices : Choices} (chosen : Chooses { stdout := true } words choices) :
    parse (path :: "--stdout" :: words) = .run { choices with path := Path.ofText path } ∧
      choices.stdout = true ∧ choices.verbose = false := by
  obtain ⟨tokens, sorted, acted⟩ := chosen.acts path
  have sorted := sort_argument argument (sort_option (rfl : Flag.stdout.names = _) sorted)
  have done : actOn (.argument path :: .long .stdout none :: tokens) =
      .ok (reached path choices) := by
    show (tokens.foldlM Progress.step (reached path { stdout := true })) >>= _ = _
    rw [acted]
    rfl
  refine ⟨?_, chosen.kept⟩
  rw [parse, sorted]
  dsimp only
  rw [done]
  rfl

end LuaBytecode.CommandLine
