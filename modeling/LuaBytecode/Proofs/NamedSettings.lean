import LuaBytecode.Options

/-!
# Named settings

What a mapping of names to values says about the switches. A name that belongs to no switch is
reported, the first of them in order; otherwise each switch follows the last setting under either of
its names. So it does not matter which of its two names a setting uses, nor in which order two
settings of different switches stand.
-/

set_option autoImplicit false

namespace LuaBytecode

namespace Switch

def names : Switch → List String
  | .stripDebugging => ["strip_debugging", "stripDebugging"]
  | .instructionObjects => ["use_instruction_objects", "useInstructionObjects"]

def allNames : List String :=
  ["strip_debugging", "use_instruction_objects", "stripDebugging", "useInstructionObjects"]

theorem ofName?_eq_some {name : String} {switch : Switch} :
    ofName? name = some switch ↔ name ∈ switch.names := by
  constructor
  · intro found
    simp only [ofName?] at found
    split at found
    next isFirst =>
      cases found
      simpa [names] using isFirst
    next =>
      split at found
      next isSecond =>
        cases found
        simpa [names] using isSecond
      next => cases found
  · intro member
    cases switch <;> simp only [names, List.mem_cons, List.not_mem_nil, or_false] at member <;>
      rcases member with rfl | rfl <;> decide

theorem mem_allNames {name : String} : name ∈ allNames ↔ ∃ switch, ofName? name = some switch := by
  simp only [ofName?_eq_some]
  constructor
  · intro member
    simp only [allNames, List.mem_cons, List.not_mem_nil, or_false] at member
    rcases member with rfl | rfl | rfl | rfl
    · exact ⟨.stripDebugging, by decide⟩
    · exact ⟨.instructionObjects, by decide⟩
    · exact ⟨.stripDebugging, by decide⟩
    · exact ⟨.instructionObjects, by decide⟩
  · rintro ⟨switch, member⟩
    cases switch <;> simp only [names, List.mem_cons, List.not_mem_nil, or_false] at member <;>
      rcases member with rfl | rfl <;> decide

theorem ofName?_eq_none {name : String} : ofName? name = none ↔ name ∉ allNames := by
  rw [mem_allNames, Option.eq_none_iff_forall_ne_some, not_exists]

/-- The value that the settings give last to a switch, under either of its names. -/
def lastValue? (switch : Switch) (settings : List (String × Json)) : Option Json :=
  (settings.filter fun setting => setting.1 ∈ switch.names).getLast?.map Prod.snd

theorem lastValue?_cons (switch : Switch) (name : String) (value : Json)
    (rest : List (String × Json)) :
    switch.lastValue? ((name, value) :: rest) =
      (switch.lastValue? rest).or (if name ∈ switch.names then some value else none) := by
  by_cases named : name ∈ switch.names
  · rw [lastValue?, List.filter_cons_of_pos (by simpa using named), List.getLast?_cons,
      if_pos named, lastValue?]
    cases (rest.filter fun setting => setting.1 ∈ switch.names).getLast? <;> rfl
  · simp [lastValue?, named]

end Switch

/-! ## Mappings -/

theorem putSetting_of_notMem {settings : List (String × Json)} {name : String}
    (fresh : name ∉ settings.map Prod.fst) (value : Json) :
    putSetting settings name value = settings ++ [(name, value)] := by
  rw [putSetting, if_neg]
  simpa using fresh

/-- Where no name occurs twice, the settings are all in force. -/
theorem lastValues_of_nodup {settings : List (String × Json)}
    (distinct : (settings.map Prod.fst).Nodup) : lastValues settings = settings := by
  suffices kept : ∀ (rest done : List (String × Json)), ((done ++ rest).map Prod.fst).Nodup →
      rest.foldl (fun done setting => putSetting done setting.1 setting.2) done = done ++ rest from
    kept settings [] distinct
  intro rest
  induction rest with
  | nil => simp
  | cons setting rest ih =>
      intro done distinct
      obtain ⟨name, value⟩ := setting
      have fresh : name ∉ done.map Prod.fst := by
        intro member
        rw [List.map_append, List.nodup_append] at distinct
        exact distinct.2.2 name member name (by simp) rfl
      have same : done ++ (name, value) :: rest = done ++ [(name, value)] ++ rest := by simp
      rw [same] at distinct ⊢
      simpa only [List.foldl_cons, putSetting_of_notMem fresh] using ih _ distinct

namespace Options

def get (options : Options) : Switch → Bool
  | .stripDebugging => options.stripDebugging
  | .instructionObjects => options.instructionObjects

theorem get_set (options : Options) (switch other : Switch) (value : Bool) :
    (options.set switch value).get other = if switch = other then value else options.get other := by
  cases switch <;> cases other <;> rfl

theorem set_comm (options : Options) {first second : Switch} (different : first ≠ second)
    (firstValue secondValue : Bool) :
    (options.set first firstValue).set second secondValue =
      (options.set second secondValue).set first firstValue := by
  cases first <;> cases second <;> first | rfl | exact absurd rfl different

theorem withSettings_cons (options : Options) {name : String} {switch : Switch}
    (named : Switch.ofName? name = some switch) (value : Json) (rest : List (String × Json)) :
    options.withSettings ((name, value) :: rest) =
      (options.set switch value.isSet).withSettings rest := by
  rw [withSettings, named]

/-- Settings that are the same up to a place, and make the same of all options after it, are the
same. -/
theorem withSettings_append_congr {left right : List (String × Json)}
    (same : ∀ options : Options, options.withSettings left = options.withSettings right)
    (before : List (String × Json)) (options : Options) :
    options.withSettings (before ++ left) = options.withSettings (before ++ right) := by
  induction before generalizing options with
  | nil => exact same options
  | cons setting before ih =>
      obtain ⟨name, value⟩ := setting
      simp only [List.cons_append, withSettings]
      cases Switch.ofName? name with
      | none => rfl
      | some switch => exact ih _

theorem withSettings_unknown {before : List (String × Json)}
    (known : ∀ setting ∈ before, setting.1 ∈ Switch.allNames) {name : String}
    (unknown : name ∉ Switch.allNames) (value : Json) (after : List (String × Json))
    (options : Options) :
    options.withSettings (before ++ (name, value) :: after) = .error ⟨name⟩ := by
  induction before generalizing options with
  | nil => rw [List.nil_append, withSettings, Switch.ofName?_eq_none.mpr unknown]
  | cons setting before ih =>
      obtain ⟨settingName, settingValue⟩ := setting
      obtain ⟨firstKnown, restKnown⟩ := List.forall_mem_cons.mp known
      obtain ⟨switch, named⟩ := Switch.mem_allNames.mp firstKnown
      rw [List.cons_append, withSettings_cons _ named]
      exact ih restKnown _

/-- Each switch follows the last of the settings that name it. -/
theorem withSettings_known {settings : List (String × Json)}
    (known : ∀ setting ∈ settings, setting.1 ∈ Switch.allNames) (options : Options) :
    ∃ result, options.withSettings settings = .ok result ∧ ∀ switch : Switch,
      result.get switch =
        ((switch.lastValue? settings).map Json.isSet).getD (options.get switch) := by
  induction settings generalizing options with
  | nil => exact ⟨options, rfl, fun _ => rfl⟩
  | cons setting rest ih =>
      obtain ⟨name, value⟩ := setting
      obtain ⟨firstKnown, restKnown⟩ := List.forall_mem_cons.mp known
      obtain ⟨named, found⟩ := Switch.mem_allNames.mp firstKnown
      obtain ⟨result, made, follows⟩ := ih restKnown (options.set named value.isSet)
      refine ⟨result, by rw [withSettings_cons _ found, made], fun switch => ?_⟩
      have sameSwitch : named = switch ↔ name ∈ switch.names := by
        rw [← Switch.ofName?_eq_some, found, Option.some.injEq]
      simp only [follows, Switch.lastValue?_cons, get_set, sameSwitch]
      cases switch.lastValue? rest with
      | some last => rfl
      | none => by_cases isNamed : name ∈ switch.names <;> simp [isNamed]

theorem exists_withSettings_eq_error {settings : List (String × Json)} {options : Options} :
    (∃ unknown, options.withSettings settings = .error unknown) ↔
      ∃ setting ∈ settings, setting.1 ∉ Switch.allNames := by
  constructor
  · rintro ⟨unknown, failed⟩
    by_cases known : ∀ setting ∈ settings, setting.1 ∈ Switch.allNames
    · obtain ⟨result, made, -⟩ := withSettings_known known options
      rw [made] at failed
      cases failed
    · simpa using known
  · rintro ⟨setting, member, notKnown⟩
    obtain ⟨⟨name, value⟩, found⟩ := Option.isSome_iff_exists.mp
      ((List.find?_isSome (p := fun setting => setting.1 ∉ Switch.allNames)).mpr
        ⟨setting, member, by simpa using notKnown⟩)
    obtain ⟨unknown, before, after, rfl, known⟩ := List.find?_eq_some_iff_append.mp found
    exact ⟨_, withSettings_unknown (by simpa using known) (by simpa using unknown) value after _⟩

/-- Where the names are distinct, as those of a mapping are: a name of no switch is reported, the
first of them in order, and otherwise each switch follows the last setting under either of its names
and is off without one. A setting may use the other name of its switch, and settings of different
switches may change places. -/
theorem ofSettings_by_switch {settings : List (String × Json)}
    (distinct : (settings.map Prod.fst).Nodup) :
    ((∃ unknown, ofSettings settings = .error unknown) ↔
      ∃ setting ∈ settings, setting.1 ∉ Switch.allNames) ∧
    (∀ before name value after, settings = before ++ (name, value) :: after →
      (∀ setting ∈ before, setting.1 ∈ Switch.allNames) → name ∉ Switch.allNames →
      ∃ unknown, ofSettings settings = .error unknown ∧ unknown.name = name ∧
        unknown.message = "Unknown decode option: " ++ Text.quoted name) ∧
    ((∀ setting ∈ settings, setting.1 ∈ Switch.allNames) →
      ∃ options, ofSettings settings = .ok options ∧ ∀ switch : Switch,
        options.get switch = ((switch.lastValue? settings).map Json.isSet).getD false) ∧
    (∀ before name other value after, settings = before ++ (name, value) :: after →
      (∃ switch : Switch, name ∈ switch.names ∧ other ∈ switch.names) →
      ((before ++ (other, value) :: after).map Prod.fst).Nodup →
      ofSettings (before ++ (other, value) :: after) = ofSettings settings) ∧
    ∀ before first second after, settings = before ++ first :: second :: after →
      (∃ one two : Switch, one ≠ two ∧ first.1 ∈ one.names ∧ second.1 ∈ two.names) →
      ofSettings (before ++ second :: first :: after) = ofSettings settings := by
  have inForce : ofSettings settings = ({} : Options).withSettings settings := by
    rw [ofSettings, lastValues_of_nodup distinct]
  refine ⟨?_, ?_, ?_, ?_, ?_⟩
  · rw [inForce]
    exact exists_withSettings_eq_error
  · rintro before name value after rfl known unknown
    exact ⟨⟨name⟩, inForce.trans (withSettings_unknown known unknown value after _), rfl, rfl⟩
  · intro known
    obtain ⟨options, made, follows⟩ := withSettings_known known {}
    refine ⟨options, inForce.trans made, fun switch => ?_⟩
    rw [follows]
    cases switch <;> rfl
  · rintro before name other value after rfl ⟨switch, named, otherNamed⟩ stillDistinct
    rw [inForce, ofSettings, lastValues_of_nodup stillDistinct]
    refine withSettings_append_congr (fun options => ?_) before {}
    rw [withSettings_cons _ (Switch.ofName?_eq_some.mpr named),
      withSettings_cons _ (Switch.ofName?_eq_some.mpr otherNamed)]
  · rintro before ⟨firstName, firstValue⟩ ⟨secondName, secondValue⟩ after rfl
      ⟨one, two, different, firstNamed, secondNamed⟩
    have stillDistinct : ((before ++ (secondName, secondValue) :: (firstName, firstValue) ::
        after).map Prod.fst).Nodup := by
      refine (List.Perm.nodup_iff ?_).mp distinct
      exact ((List.Perm.swap _ _ _).append_left before).map Prod.fst
    rw [inForce, ofSettings, lastValues_of_nodup stillDistinct]
    refine withSettings_append_congr (fun options => ?_) before {}
    rw [withSettings_cons _ (Switch.ofName?_eq_some.mpr secondNamed),
      withSettings_cons _ (Switch.ofName?_eq_some.mpr firstNamed),
      withSettings_cons _ (Switch.ofName?_eq_some.mpr firstNamed),
      withSettings_cons _ (Switch.ofName?_eq_some.mpr secondNamed), set_comm _ different]

/-- Both names of one switch, with values that differ. -/
def mixedSettings : List (String × Json) :=
  [("stripDebugging", .boolean true), ("use_instruction_objects", .integer 1),
    ("strip_debugging", .text "")]

theorem ofSettings_by_switch_mixedSettings :
    (∃ options, ofSettings mixedSettings = .ok options ∧ options.get .stripDebugging = false ∧
      options.get .instructionObjects = true) ∧
    ofSettings [("stripDebugging", .boolean true), ("useInstructionObjects", .integer 1),
      ("strip_debugging", .text "")] = ofSettings mixedSettings ∧
    ofSettings [("use_instruction_objects", .integer 1), ("stripDebugging", .boolean true),
      ("strip_debugging", .text "")] = ofSettings mixedSettings ∧
    ∃ unknown, ofSettings (mixedSettings ++ [("stripDebug", .null), ("", .null)]) = .error unknown ∧
      unknown.name = "stripDebug" := by
  obtain ⟨-, -, follows, respelled, swapped⟩ :=
    @ofSettings_by_switch mixedSettings (by decide)
  refine ⟨?_, ?_, ?_, ?_⟩
  · obtain ⟨options, made, last⟩ := follows (by decide)
    exact ⟨options, made, last .stripDebugging, last .instructionObjects⟩
  · exact respelled [("stripDebugging", .boolean true)] _ _ _ _ rfl
      ⟨.instructionObjects, by decide, by decide⟩ (by decide)
  · exact swapped [] _ _ _ rfl
      ⟨.stripDebugging, .instructionObjects, by decide, by decide, by decide⟩
  · obtain ⟨-, reported, -⟩ := @ofSettings_by_switch
      (mixedSettings ++ [("stripDebug", .null), ("", .null)]) (by decide)
    obtain ⟨unknown, failed, named, -⟩ := reported mixedSettings _ _ _ rfl (by decide) (by decide)
    exact ⟨unknown, failed, named⟩

end Options

end LuaBytecode
