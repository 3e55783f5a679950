import LuaBytecode.Proofs.Results
import LuaBytecode.Store.Write
import Mathlib.Data.List.Nodup
import Mathlib.Data.List.Perm.Subperm

/-!
# What work on a store leaves alone

Looking up entries after an entry was put or erased, and what follows for the work on a store:
making directories adds directories where nothing was, a temporary file takes a free place and
leaves no trace, and a path that can be walked can be walked as long as all directories stay.
-/

set_option autoImplicit false

namespace LuaBytecode

namespace Store

/-- The content of the file at a location, if there is one. -/
def file? (store : Store) (location : Location) : Option Bytes :=
  match store.find? location with
  | some (.file content) => some content
  | _ => none

theorem isStanding_of_find? (store : Store) {location : Location}
    (other : store.find? location ≠ some .directory) : location.isStanding = false := by
  rw [← Bool.not_eq_true]
  intro standing
  exact other (if_pos standing)

theorem lookup_filter_of_ne {α β : Type} [BEq α] [LawfulBEq α] {key other : α}
    (different : other ≠ key) (entries : List (α × β)) :
    (entries.filter fun entry => entry.1 != key).lookup other = entries.lookup other := by
  induction entries with
  | nil => rfl
  | cons entry entries ih =>
      by_cases removed : entry.1 = key
      · have unequal : (other == entry.1) = false := by simpa [removed] using different
        rw [List.filter_cons_of_neg (by simp [removed]), ih, List.lookup_cons, unequal]
      · rw [List.filter_cons_of_pos (by simpa using removed), List.lookup_cons, List.lookup_cons,
          ih]

theorem lookup_filter_self {α β : Type} [BEq α] [LawfulBEq α] (key : α)
    (entries : List (α × β)) : (entries.filter fun entry => entry.1 != key).lookup key = none := by
  rw [List.lookup_eq_none_iff]
  intro entry member
  have kept : entry.1 ≠ key := by simpa using (List.mem_filter.mp member).2
  exact bne_iff_ne.mpr kept.symm

theorem find?_erase_of_ne (store : Store) {location other : Location}
    (different : other ≠ location) :
    (store.erase location).find? other = store.find? other := by
  simp only [find?, erase, lookup_filter_of_ne different]

theorem find?_erase_self (store : Store) {location : Location}
    (notStanding : location.isStanding = false) : (store.erase location).find? location = none := by
  simp only [find?, erase, lookup_filter_self, notStanding, Bool.false_eq_true, if_false]

theorem find?_insert_of_ne (store : Store) {location other : Location} (entry : Entry)
    (different : other ≠ location) :
    (store.insert location entry).find? other = store.find? other := by
  have unequal : (other == location) = false := by simpa using different
  simp only [find?, insert, erase, List.lookup_cons, unequal, lookup_filter_of_ne different]

theorem find?_insert_self (store : Store) {location : Location} (entry : Entry)
    (notStanding : location.isStanding = false) :
    (store.insert location entry).find? location = some entry := by
  simp only [find?, insert, notStanding, List.lookup_cons, beq_self_eq_true, Bool.false_eq_true,
    if_false]

theorem file?_of_find? {left right : Store} {location : Location}
    (same : left.find? location = right.find? location) :
    left.file? location = right.file? location := by
  rw [file?, file?, same]

theorem handingOver_eq_ok {α : Type} {path : String} {failure : SystemCause → SystemFailure}
    {answer : Except SystemCause α} {value : α}
    (handed : handingOver path failure answer = .ok value) :
    '\x00' ∉ path.toList ∧ answer = .ok value := by
  rw [handingOver] at handed
  split at handed
  next => cases handed
  next clear =>
    cases answer with
    | error cause => cases handed
    | ok _ =>
        cases handed
        exact ⟨by simpa using clear, rfl⟩

/-! ## Directories -/

/-- Nothing is changed but that directories are made where nothing was. -/
def Extends (later earlier : Store) : Prop :=
  ∀ location, later.find? location = earlier.find? location ∨
    earlier.find? location = none ∧ later.find? location = some .directory

namespace Extends

theorem refl (store : Store) : store.Extends store :=
  fun _ => .inl rfl

theorem trans {first second third : Store} (later : third.Extends second)
    (earlier : second.Extends first) : third.Extends first := by
  intro location
  rcases later location with same | ⟨vacant, made⟩
  · rw [same]
    exact earlier location
  · refine .inr ⟨?_, made⟩
    rcases earlier location with same | ⟨vacantBefore, -⟩
    · rw [← same, vacant]
    · exact vacantBefore

theorem file? {later earlier : Store} (extend : later.Extends earlier) (location : Location) :
    later.file? location = earlier.file? location := by
  rcases extend location with same | ⟨vacant, made⟩
  · exact file?_of_find? same
  · rw [Store.file?, Store.file?, vacant, made]

theorem directory {later earlier : Store} (extend : later.Extends earlier) {location : Location}
    (there : earlier.find? location = some .directory) :
    later.find? location = some .directory := by
  rcases extend location with same | ⟨vacant, -⟩
  · rw [same, there]
  · rw [vacant] at there
    cases there

end Extends

theorem extends_insert_directory {store : Store} {location : Location}
    (vacant : store.find? location = none) : (store.insert location .directory).Extends store := by
  intro other
  by_cases same : other = location
  · subst same
    have notStanding : other.isStanding = false := isStanding_of_find? store (by simp [vacant])
    exact .inr ⟨vacant, find?_insert_self store _ notStanding⟩
  · exact .inl (find?_insert_of_ne store _ same)

end Store

/-- The work makes directories at most. -/
def StoreWork.Adds {ε α : Type} (work : StoreWork ε α) : Prop :=
  ∀ store, (work store).store.Extends store

/-- The work makes directories at most, also in the stores that it passes through. -/
structure StoreWork.AddsThroughout {ε α : Type} (work : StoreWork ε α) : Prop where
  adds : work.Adds
  passing : ∀ store, ∀ now ∈ (work store).passed, now.Extends store

namespace StoreWork

variable {ε α β : Type}

theorem addsThroughout_pure (value : α) : (pure value : StoreWork ε α).AddsThroughout := by
  refine ⟨fun store => .refl store, ?_⟩
  intro store now member
  cases member

theorem addsThroughout_bind {first : StoreWork ε α} {next : α → StoreWork ε β}
    (firstAdds : first.AddsThroughout) (nextAdds : ∀ value, (next value).AddsThroughout) :
    (first >>= next).AddsThroughout := by
  constructor
  · intro store
    show (StoreWork.bind first next store).store.Extends store
    simp only [StoreWork.bind]
    cases (first store).result with
    | error failure => exact firstAdds.adds store
    | ok value => exact ((nextAdds value).adds _).trans (firstAdds.adds store)
  · intro store now member
    have member : now ∈ (StoreWork.bind first next store).passed := member
    simp only [StoreWork.bind] at member
    cases result : (first store).result with
    | error failure =>
        rw [result] at member
        exact firstAdds.passing store now member
    | ok value =>
        rw [result] at member
        rcases List.mem_append.mp member with before | after
        · exact firstAdds.passing store now before
        · exact ((nextAdds value).passing _ now after).trans (firstAdds.adds store)

theorem excusing_leaves (work : StoreWork ε Unit) (excused : ε → Store → Bool) (store : Store) :
    (work.excusing excused store).store = (work store).store ∧
      (work.excusing excused store).passed = (work store).passed := by
  simp only [excusing]
  cases (work store).result with
  | ok _ => exact ⟨rfl, rfl⟩
  | error failure =>
      simp only
      split <;> exact ⟨rfl, rfl⟩

theorem addsThroughout_excusing {work : StoreWork ε Unit} (adds : work.AddsThroughout)
    (excused : ε → Store → Bool) : (work.excusing excused).AddsThroughout := by
  constructor
  · intro store
    rw [(excusing_leaves work excused store).1]
    exact adds.adds store
  · intro store now member
    rw [(excusing_leaves work excused store).2] at member
    exact adds.passing store now member

theorem excusing_eq_error {work : StoreWork ε Unit} {excused : ε → Store → Bool} {store : Store}
    {failure : ε} (failed : (work.excusing excused store).result = .error failure) :
    (work store).result = .error failure := by
  simp only [excusing] at failed
  cases result : (work store).result with
  | ok _ => simp [result] at failed
  | error cause =>
      simp only [result] at failed
      split at failed
      · cases failed
      · rw [← failed, result]

theorem bind_eq_error {first : StoreWork ε α} {next : α → StoreWork ε β} {store : Store}
    {failure : ε} (failed : ((first >>= next) store).result = .error failure) :
    (first store).result = .error failure ∨
      ∃ value, (first store).result = .ok value ∧
        (next value (first store).store).result = .error failure := by
  simp only [bind, StoreWork.bind] at failed
  cases result : (first store).result with
  | error cause =>
      simp only [result, Except.error.injEq] at failed
      exact .inl (by rw [failed])
  | ok value =>
      simp only [result] at failed
      exact .inr ⟨value, rfl, failed⟩

end StoreWork

namespace Store

theorem vacancy_eq_ok {store : Store} {path : String} {location : Location}
    (found : store.vacancy path = .ok location) : store.find? location = none := by
  obtain ⟨walked, -, found⟩ := bind_eq_ok.mp found
  cases last : walked.last with
  | here => simp [last] at found
  | above => simp [last] at found
  | name name =>
      simp only [last] at found
      split at found
      · cases found
      · split at found
        · cases found
        · next vacant =>
            cases found
            exact vacant

theorem addsThroughout_makeDirectory (path : String) : (makeDirectory path).AddsThroughout := by
  have made {store : Store} {location : Location}
      (found : handingOver path (fun cause => ⟨cause, path, none⟩) (store.vacancy path) =
        .ok location) : (store.insert location .directory).Extends store :=
    extends_insert_directory (vacancy_eq_ok (handingOver_eq_ok found).2)
  constructor
  · intro store
    show (StoreWork.bind _ _ store).store.Extends store
    simp only [StoreWork.bind, StoreWork.ask]
    cases found : handingOver path (fun cause => ⟨cause, path, none⟩) (store.vacancy path) with
    | error failure => exact .refl store
    | ok location => exact made found
  · intro store now member
    have member : now ∈ (StoreWork.bind _ _ store).passed := member
    simp only [StoreWork.bind, StoreWork.ask, StoreWork.change, List.nil_append] at member
    split at member
    next => cases member
    next location found =>
      obtain rfl := List.mem_singleton.mp member
      exact made found

theorem addsThroughout_ensureDirectory (path : String) : (ensureDirectory path).AddsThroughout :=
  StoreWork.addsThroughout_excusing (addsThroughout_makeDirectory path) _

theorem addsThroughout_ensureDirectories (bound : Nat) (path : List Char) :
    (ensureDirectories bound path).AddsThroughout := by
  induction bound generalizing path with
  | zero => exact addsThroughout_ensureDirectory _
  | succ bound ih =>
      -- Which work is done depends on the store, so both facts are shown store by store.
      have either (store : Store) : ∃ work : StoreWork StoreFailure Unit, work.AddsThroughout ∧
          ensureDirectories (bound + 1) path store = work store := by
        have both (above : List Char) (last : List Char) :
            (StoreWork.excusing (ensureDirectories bound above)
                (fun failure _ => failure.isAlreadyExists) >>= fun _ =>
              if last = ['.'] then pure () else
                ensureDirectory (String.ofList path)).AddsThroughout := by
          refine StoreWork.addsThroughout_bind
            (StoreWork.addsThroughout_excusing (ih above) _) fun _ => ?_
          split
          · exact StoreWork.addsThroughout_pure ()
          · exact addsThroughout_ensureDirectory _
        simp only [ensureDirectories]
        split
        all_goals
          split
          · exact ⟨_, addsThroughout_ensureDirectory _, rfl⟩
          · exact ⟨_, both _ _, rfl⟩
      constructor
      · intro store
        obtain ⟨work, adds, same⟩ := either store
        rw [same]
        exact adds.adds store
      · intro store now member
        obtain ⟨work, adds, same⟩ := either store
        rw [same] at member
        exact adds.passing store now member

/-! ## Temporary files -/

theorem length_temporaryName (mark : String) :
    (temporaryName mark).length = mark.length + 13 := by
  simp only [temporaryName, String.length_append]
  show 5 + mark.length + 8 = mark.length + 13
  omega

theorem isStanding_append {directory : Location} {name : String} (notAbove : name ≠ "..")
    (notRoot : name ≠ "/") : Location.isStanding (directory ++ [name]) = false := by
  have other : directory ++ [name] ≠ Location.root := by
    intro same
    have last := congrArg List.getLast? same
    simp [Location.root] at last
    exact notRoot last
  simp [Location.isStanding, other, notAbove]

/-- The names that are tried for a temporary file. -/
def trialNames (count : Nat) : List String :=
  (List.range count).map fun length => temporaryName (String.ofList (List.replicate length 'x'))

theorem nodup_trialNames (count : Nat) : (trialNames count).Nodup := by
  refine List.Nodup.map ?_ List.nodup_range
  intro left right same
  have lengths := congrArg String.length same
  simpa [length_temporaryName] using lengths

theorem find?_trialName_eq_none {store : Store} {directory : Location} {count : Nat} {name : String}
    (member : name ∈ trialNames count)
    (absent : directory ++ [name] ∉ store.entries.map Prod.fst) :
    store.find? (directory ++ [name]) = none := by
  obtain ⟨length, -, rfl⟩ := List.mem_map.mp member
  set name := temporaryName (String.ofList (List.replicate length 'x'))
  have long : 12 < name.length := by
    rw [length_temporaryName]
    omega
  have notStanding : Location.isStanding (directory ++ [name]) = false := by
    refine isStanding_append ?_ ?_
    · intro same
      rw [same] at long
      exact absurd long (by decide)
    · intro same
      rw [same] at long
      exact absurd long (by decide)
  rw [find?, notStanding, if_neg (by decide), List.lookup_eq_none_iff]
  intro entry inEntries
  refine bne_iff_ne.mpr fun same => absent ?_
  rw [same]
  exact List.mem_map_of_mem inEntries

/-- More names are tried than there are entries, so one of them is free. -/
theorem find?_freshName (store : Store) (directory : Location) :
    store.find? (directory ++ [store.freshName directory]) = none := by
  obtain ⟨name, member, absent⟩ : ∃ name ∈ trialNames (store.entries.length + 1),
      directory ++ [name] ∉ store.entries.map Prod.fst := by
    by_contra! taken
    have within : (trialNames (store.entries.length + 1)).map (directory ++ [·]) ⊆
        store.entries.map Prod.fst := by
      intro location member
      obtain ⟨name, inNames, rfl⟩ := List.mem_map.mp member
      exact taken name inNames
    have distinct : ((trialNames (store.entries.length + 1)).map (directory ++ [·])).Nodup :=
      (nodup_trialNames _).map fun left right same => by simpa using same
    have fewer := (distinct.subperm within).length_le
    simp only [trialNames, List.length_map, List.length_range] at fewer
    omega
  have vacant := find?_trialName_eq_none member absent
  show store.find? (directory ++ [((trialNames (store.entries.length + 1)).find? fun name =>
    (store.find? (directory ++ [name])).isNone).getD (temporaryName "")]) = none
  cases chosen : (trialNames (store.entries.length + 1)).find? fun name =>
      (store.find? (directory ++ [name])).isNone with
  | none =>
      have occupied := List.find?_eq_none.mp chosen name member
      simp [vacant] at occupied
  | some name => simpa using List.find?_some chosen

theorem temporaryVacancy_eq_ok {store : Store} {directory : String} {location : Location}
    (found : store.temporaryVacancy directory = .ok location) : store.find? location = none := by
  rw [temporaryVacancy] at found
  split at found
  next => cases found
  next =>
    obtain ⟨reached, -, found⟩ := bind_eq_ok.mp found
    cases found
    exact find?_freshName store reached

/-- A temporary file leaves no trace once it is erased. -/
theorem find?_erase_temporary {store : Store} {temporary : Location} (entry : Entry)
    (vacant : store.find? temporary = none) (location : Location) :
    ((store.insert temporary entry).erase temporary).find? location = store.find? location := by
  by_cases same : location = temporary
  · subst same
    rw [find?_erase_self _ (isStanding_of_find? store (by simp [vacant])), vacant]
  · rw [find?_erase_of_ne _ same, find?_insert_of_ne _ _ same]

/-! ## Paths in a grown store -/

section Walking

variable {earlier later : Store}
  (kept : ∀ location, earlier.find? location = some .directory →
    later.find? location = some .directory)
include kept

theorem enter_kept {directory reached : Location} {step : String}
    (entered : earlier.enter directory step = .ok reached) :
    later.enter directory step = .ok reached := by
  rw [enter] at entered ⊢
  split_ifs at entered ⊢
  · exact entered
  · exact entered
  · split at entered
    next => cases entered
    next => cases entered
    next there => rw [kept _ there]; exact entered

theorem enterAll_kept {directory reached : Location} {steps : List String}
    (entered : earlier.enterAll directory steps = .ok reached) :
    later.enterAll directory steps = .ok reached := by
  induction steps generalizing directory with
  | nil => exact entered
  | cons step rest ih =>
      obtain ⟨next, first, others⟩ := bind_eq_ok.mp entered
      rw [enterAll, enter_kept kept first]
      exact ih others

theorem walk_kept {path : String} {walked : Walked} (found : earlier.walk path = .ok walked) :
    later.walk path = .ok walked := by
  rw [walk] at found ⊢
  split_ifs at found ⊢
  all_goals
    simp only at found ⊢
    split at found
    next => exact found
    next last _ =>
      obtain ⟨directory, reached, found⟩ := bind_eq_ok.mp found
      rw [enterAll_kept kept reached]
      exact found

end Walking

end Store

end LuaBytecode
