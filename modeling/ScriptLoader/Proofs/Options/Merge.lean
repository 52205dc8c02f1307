import ScriptLoader.Proofs.Collection
import ScriptLoader.Proofs.Options.Setting

/-!
# What merged options depend on

Of each option only the value that counts matters: that of the request, or else that of the
project. Whether it is good is decided without regard to the others, and what it says concerns
no other option, so the order in which values are put into the options matters for nothing but
the error. `Merging` says all this of every pair of sources.
-/

namespace ScriptLoader

@[simp] theorem RawOptions.get?_empty (key : String) : (∅ : RawOptions).get? key = none := by
  change (∅ : Json.Members)[key]? = none
  simp

/-- Setting an option is seen under its key and under no other. -/
theorem RawOptions.get?_set (options : RawOptions) (key other : String) (value : Json) :
    (options.set key value).get? other = if key = other then some value else options.get? other := by
  simp [RawOptions.get?, RawOptions.set, Std.ExtTreeMap.getElem?_insert]

namespace OptionSources

/-- The value that counts for an option; an option that has none has the value `null`. -/
def valueOf (sources : OptionSources) (name : OptionName) : Json :=
  (sources.effective? name.key).getD .null

/-- A list holds the values that count, each once, in any order. -/
structure Lists (sources : OptionSources) (entries : List (String × Json)) : Prop where
  distinct : (entries.map (·.1)).Nodup
  mem_iff : ∀ key value, (key, value) ∈ entries ↔ sources.effective? key = some value

/-- Both sources as one object have the values that count. -/
theorem getElem?_merged (sources : OptionSources) (key : String) :
    sources.merged[key]? = sources.effective? key := by
  exact Collection.getElem?_insertMany_toList ..

/-- A value that is refused is written somewhere. -/
theorem effective?_of_refused {sources : OptionSources} {name : OptionName} {cause : ConfigError}
    (refused : Setting.read? name (sources.valueOf name) = .error cause) :
    sources.effective? name.key = some (sources.valueOf name) := by
  unfold valueOf at refused ⊢
  cases written : sources.effective? name.key with
  | some value => rfl
  | none =>
    rw [written, Option.getD_none] at refused
    exact absurd refused (Setting.isValid_iff.mp (Setting.isValid_null name) cause)

/-- The value of an option is the one that is written, if there is one. -/
theorem valueOf_of_effective? {sources : OptionSources} {name : OptionName} {value : Json}
    (written : sources.effective? name.key = some value) : sources.valueOf name = value := by
  rw [valueOf, written, Option.getD_some]

/-- The merged entries list what is written, each key once. -/
theorem lists_merged (sources : OptionSources) : sources.Lists sources.merged.toList where
  distinct := by
    have distinct := Std.ExtTreeMap.nodup_keys (t := sources.merged)
    rw [← Std.ExtTreeMap.map_fst_toList_eq_keys] at distinct
    exact distinct
  mem_iff := by
    intro key value
    rw [Std.ExtTreeMap.mem_toList_iff_getElem?_eq_some, getElem?_merged]

/-- Sources list one value if no other key has a value that counts. -/
theorem lists_singleton_iff {sources : OptionSources} {name : String} {value : Json} :
    sources.Lists [(name, value)] ↔
      ∀ key, sources.effective? key = if name = key then some value else none := by
  constructor
  · intro lists key
    ext other
    rw [← lists.mem_iff]
    grind
  · intro only
    refine ⟨by simp, fun key other => ?_⟩
    rw [only]
    grind

/-- Both sources as one object list the values in the order of the keys. -/
theorem merged_ordered (sources : OptionSources) :
    sources.merged.toList.Pairwise (·.1 < ·.1) :=
  Collection.pairwise_lt_of_compare Std.ExtTreeMap.ordered_keys_toList

end OptionSources

namespace LoaderOptions

/-- What an entry says: nothing if its key is that of no option. -/
def readEntry (key : String) (value : Json) : Except ConfigError (Option Setting) :=
  match OptionName.ofKey? key with
  | none => .ok none
  | some name => Setting.read? name value

/-- An entry under the key of an option is read as what it says of this option. -/
theorem readEntry_key (name : OptionName) (value : Json) :
    readEntry name.key value = Setting.read? name value := by
  simp [readEntry, OptionName.ofKey?_key]

section Entries

variable {options next merged : LoaderOptions} {key : String} {value : Json}
  {entries : List (String × Json)}

/-- What an entry says is about the option with its key. -/
theorem key_of_readEntry {said : Setting} (given : readEntry key value = .ok (some said)) :
    said.name.key = key := by
  unfold readEntry at given
  cases known : OptionName.ofKey? key with
  | none => simp [known] at given
  | some name =>
    rw [known] at given
    have named := (Setting.read?_getD_iff.mp ⟨_, given, rfl⟩).1
    rw [Option.getD_some] at named
    rw [named]
    exact OptionName.ofKey?_eq_some_iff.mp known

/-- An entry is put into the options if it is not refused. -/
theorem apply_eq_ok_iff : options.apply key value = .ok next ↔
    ∃ said, readEntry key value = .ok said ∧ said.elim options (·.put options) = next := by
  have opened : options.apply key value =
      (fun said => said.elim options (·.put options)) <$> readEntry key value := by
    unfold apply readEntry
    cases OptionName.ofKey? key with
    | none => rfl
    | some name =>
      dsimp only
      rcases Setting.read? name value with cause | _ | said <;> rfl
  rw [opened]
  exact map_eq_ok

/-- A refused entry refuses the options. -/
theorem apply_of_refused {cause : ConfigError} (refused : readEntry key value = .error cause) :
    options.apply key value = .error cause := by
  unfold apply
  unfold readEntry at refused
  cases known : OptionName.ofKey? key with
  | none => simp [known] at refused
  | some name =>
    rw [known] at refused
    simp [refused]

/-- What holds of options and is kept when a setting is put into them holds after all entries. -/
theorem applyAll_invariant {Keeps : LoaderOptions → Prop}
    (kept : ∀ (options : LoaderOptions) (said : Setting), Keeps options → Keeps (said.put options))
    (before : Keeps options) (success : options.applyAll entries = .ok merged) : Keeps merged := by
  induction entries generalizing options with
  | nil =>
    obtain rfl := Except.ok.inj success
    exact before
  | cons entry rest ih =>
    obtain ⟨key, value⟩ := entry
    simp only [applyAll] at success
    cases applied : options.apply key value with
    | error cause => simp [applied] at success
    | ok next =>
      rw [applied] at success
      obtain ⟨said, _, rfl⟩ := apply_eq_ok_iff.mp applied
      refine ih ?_ success
      cases said with
      | none => exact before
      | some said => exact kept options said before

/-- Putting values into options leaves the key of the instance alone. -/
theorem key_applyAll (success : options.applyAll entries = .ok merged) :
    merged.key = options.key := by
  have kept (current : LoaderOptions) (said : Setting) (same : current.key = options.key) :
      (said.put current).key = options.key :=
    (key_put said current).trans same
  exact applyAll_invariant kept rfl success

/-- Applying entries keeps the patterns in step with their texts. -/
theorem isCoherent_applyAll (coherent : options.IsCoherent)
    (success : options.applyAll entries = .ok merged) : merged.IsCoherent :=
  applyAll_invariant (fun _ said => isCoherent_put said) coherent success

/-- The first entry that is refused decides the error. -/
theorem applyAll_eq_error_iff {cause : ConfigError} :
    options.applyAll entries = .error cause ↔
      ∃ front key value back, entries = front ++ (key, value) :: back ∧
        (∀ entry ∈ front, ∀ other, readEntry entry.1 entry.2 ≠ .error other) ∧
        readEntry key value = .error cause := by
  induction entries generalizing options with
  | nil => simp [applyAll]
  | cons entry rest ih =>
    obtain ⟨key, value⟩ := entry
    cases given : readEntry key value with
    | error other =>
      have refused : options.applyAll ((key, value) :: rest) = .error other := by
        simp [applyAll, apply_of_refused given]
      rw [refused, Except.error.injEq]
      constructor
      · rintro rfl
        exact ⟨[], key, value, rest, rfl, by simp, given⟩
      · rintro ⟨front, laterKey, laterValue, back, split, accepted, found⟩
        cases front with
        | nil =>
          obtain ⟨⟨rfl, rfl⟩, rfl⟩ : (key = laterKey ∧ value = laterValue) ∧ rest = back := by
            simpa using split
          exact Except.error.inj (given.symm.trans found)
        | cons first front =>
          obtain ⟨rfl, _⟩ := List.cons.inj split
          exact absurd given (accepted _ (List.mem_cons_self ..) other)
    | ok said =>
      have stepped : options.applyAll ((key, value) :: rest) =
          (said.elim options (·.put options)).applyAll rest := by
        simp [applyAll, apply_eq_ok_iff.mpr ⟨said, given, rfl⟩]
      rw [stepped, ih]
      constructor
      · rintro ⟨front, laterKey, laterValue, back, rfl, accepted, found⟩
        refine ⟨(key, value) :: front, laterKey, laterValue, back, rfl, ?_, found⟩
        intro entry among other
        rcases List.mem_cons.mp among with rfl | among
        · simp [given]
        · exact accepted entry among other
      · rintro ⟨front, laterKey, laterValue, back, split, accepted, found⟩
        cases front with
        | nil =>
          obtain ⟨⟨rfl, rfl⟩, _⟩ : (key = laterKey ∧ value = laterValue) ∧ rest = back := by
            simpa using split
          rw [given] at found
          cases found
        | cons first front =>
          obtain ⟨_, rfl⟩ := List.cons.inj split
          refine ⟨front, laterKey, laterValue, back, rfl, ?_, found⟩
          intro entry among
          exact accepted entry (List.mem_cons_of_mem _ among)

/-- An entry under another key leaves an option alone. -/
theorem setting_apply_of_other {name : OptionName} (other : name.key ≠ key)
    (applied : options.apply key value = .ok next) : next.setting name = options.setting name := by
  obtain ⟨said, given, rfl⟩ := apply_eq_ok_iff.mp applied
  cases said with
  | none => rfl
  | some said =>
    have different : said.name ≠ name := by
      rintro rfl
      exact other (key_of_readEntry given)
    exact (setting_put said options name).trans (if_neg different)

/-- The entry of an option decides what holds of it, if nothing was said of it before. -/
theorem holds_apply {name : OptionName} (unsaid : options.setting name = Setting.default name)
    (applied : options.apply name.key value = .ok next) : (next.setting name).Holds value := by
  obtain ⟨said, given, rfl⟩ := apply_eq_ok_iff.mp applied
  rw [readEntry_key] at given
  obtain ⟨named, holds⟩ := Setting.read?_getD_iff.mp ⟨said, given, rfl⟩
  cases said with
  | none =>
    rw [Option.elim_none, unsaid]
    exact holds
  | some said =>
    rw [Option.getD_some] at named holds
    rw [Option.elim_some, setting_put, if_pos named]
    exact holds

/-- An option that no entry is about keeps its setting. -/
theorem setting_applyAll_of_absent {name : OptionName}
    (absent : ∀ entry ∈ entries, entry.1 ≠ name.key)
    (success : options.applyAll entries = .ok merged) :
    merged.setting name = options.setting name := by
  induction entries generalizing options with
  | nil =>
    obtain rfl := Except.ok.inj success
    rfl
  | cons entry rest ih =>
    obtain ⟨key, value⟩ := entry
    obtain ⟨other, restAbsent⟩ := List.forall_mem_cons.mp absent
    simp only [applyAll] at success
    cases applied : options.apply key value with
    | error cause => simp [applied] at success
    | ok next =>
      rw [applied] at success
      rw [ih restAbsent success]
      exact setting_apply_of_other (Ne.symm other) applied

/-- Among entries with different keys the one of an option decides what holds of it. -/
theorem holds_applyAll {name : OptionName} (distinct : (entries.map (·.1)).Nodup)
    (unsaid : options.setting name = Setting.default name) (member : (name.key, value) ∈ entries)
    (success : options.applyAll entries = .ok merged) : (merged.setting name).Holds value := by
  induction entries generalizing options with
  | nil => cases member
  | cons entry rest ih =>
    obtain ⟨key, first⟩ := entry
    obtain ⟨new, restDistinct⟩ := List.nodup_cons.mp distinct
    simp only [applyAll] at success
    cases applied : options.apply key first with
    | error cause => simp [applied] at success
    | ok next =>
      rw [applied] at success
      by_cases aimed : name.key = key
      · subst aimed
        have restAbsent : ∀ entry ∈ rest, entry.1 ≠ name.key := by
          intro entry among same
          exact new (List.mem_map.mpr ⟨entry, among, same⟩)
        have isFirst : value = first := by
          rcases List.mem_cons.mp member with same | among
          · exact congrArg Prod.snd same
          · exact absurd rfl (restAbsent _ among)
        rw [setting_applyAll_of_absent restAbsent success, isFirst]
        exact holds_apply unsaid applied
      · have among : (name.key, value) ∈ rest := by
          rcases List.mem_cons.mp member with same | among
          · exact absurd (congrArg Prod.fst same) aimed
          · exact among
        refine ih restDistinct ?_ among success
        rw [setting_apply_of_other aimed applied, unsaid]

end Entries

section Merging

variable {sources : OptionSources} {key : String}

/-- An entry that is refused is that of an option whose value is not good. -/
theorem exists_refused_of_readEntry {value : Json} {cause : ConfigError}
    (written : sources.effective? key = some value) (refused : readEntry key value = .error cause) :
    ∃ name, name.key = key ∧ Setting.read? name (sources.valueOf name) = .error cause := by
  unfold readEntry at refused
  cases known : OptionName.ofKey? key with
  | none => simp [known] at refused
  | some name =>
    rw [known] at refused
    have named := OptionName.ofKey?_eq_some_iff.mp known
    subst named
    exact ⟨name, rfl, (OptionSources.valueOf_of_effective? written).symm ▸ refused⟩

/-- In whatever order the values that count are put into the defaults, the result is the options
of which these values hold. -/
theorem applyAll_eq_ok_iff {entries : List (String × Json)} (lists : sources.Lists entries)
    {options : LoaderOptions} :
    (defaults key).applyAll entries = .ok options ↔
      options.key = key ∧ options.IsCoherent ∧
        ∀ name, (options.setting name).Holds (sources.valueOf name) := by
  have holds_of_ok : ∀ {found : LoaderOptions}, (defaults key).applyAll entries = .ok found →
      ∀ name, (found.setting name).Holds (sources.valueOf name) := by
    intro found success name
    have unsaid : (defaults key).setting name = Setting.default name := setting_defaults key name
    unfold OptionSources.valueOf
    cases written : sources.effective? name.key with
    | some value =>
      exact holds_applyAll lists.distinct unsaid ((lists.mem_iff _ _).mpr written) success
    | none =>
      have absent : ∀ entry ∈ entries, entry.1 ≠ name.key := by
        rintro ⟨other, value⟩ among rfl
        have present := (lists.mem_iff _ _).mp among
        rw [written] at present
        cases present
      rw [setting_applyAll_of_absent absent success, unsaid]
      exact Setting.holds_default name
  constructor
  · intro success
    exact ⟨key_applyAll success, isCoherent_applyAll (isCoherent_defaults key) success,
      holds_of_ok success⟩
  · rintro ⟨keyEq, coherent, holds⟩
    cases outcome : (defaults key).applyAll entries with
    | ok found =>
      have settingEq : ∀ name, found.setting name = options.setting name := by
        intro name
        refine Setting.Holds.unique ?_ (holds_of_ok outcome name) (holds name)
        rw [name_setting, name_setting]
      have foundKey : found.key = options.key := (key_applyAll outcome).trans keyEq.symm
      rw [ext_setting (isCoherent_applyAll (isCoherent_defaults key) outcome) coherent foundKey
        settingEq]
    | error cause =>
      obtain ⟨front, refusedKey, value, back, split, _, refused⟩ :=
        applyAll_eq_error_iff.mp outcome
      have among : (refusedKey, value) ∈ entries := by simp [split]
      obtain ⟨name, _, notRead⟩ :=
        exists_refused_of_readEntry ((lists.mem_iff _ _).mp among) refused
      have valid : Setting.IsValid name (sources.valueOf name) :=
        ⟨_, name_setting options name, holds name⟩
      exact absurd notRead (Setting.isValid_iff.mp valid cause)

/-- Options come out of two sources if the values that count hold of them. -/
theorem merge_eq_ok_iff {options : LoaderOptions} :
    merge sources key = .ok options ↔
      options.key = key ∧ options.IsCoherent ∧
        ∀ name, (options.setting name).Holds (sources.valueOf name) :=
  applyAll_eq_ok_iff sources.lists_merged

/-- A single option with a value is put into the defaults. -/
theorem merge_only_eq_ok_iff {name : OptionName} {value : Json}
    (only : sources.Lists [(name.key, value)]) {options : LoaderOptions} :
    merge sources key = .ok options ↔
      ∃ said, Setting.read? name value = .ok said ∧
        said.elim (defaults key) (·.put (defaults key)) = options := by
  have opened : (defaults key).applyAll [(name.key, value)] = (defaults key).apply name.key value := by
    simp only [applyAll]
    cases (defaults key).apply name.key value <;> rfl
  rw [merge_eq_ok_iff, ← applyAll_eq_ok_iff only, opened, apply_eq_ok_iff, readEntry_key]

/-- The error of two sources is that of the least key whose value is not good. -/
theorem merge_eq_error_iff {cause : ConfigError} :
    merge sources key = .error cause ↔
      ∃ name, Setting.read? name (sources.valueOf name) = .error cause ∧
        ∀ other : OptionName, other.key < name.key →
          Setting.IsValid other (sources.valueOf other) := by
  have ordered := sources.merged_ordered
  have lists := sources.lists_merged
  unfold merge
  rw [applyAll_eq_error_iff]
  constructor
  · rintro ⟨front, refusedKey, value, back, split, accepted, refused⟩
    have among : (refusedKey, value) ∈ sources.merged.toList := by simp [split]
    obtain ⟨name, rfl, notRead⟩ := exists_refused_of_readEntry ((lists.mem_iff _ _).mp among) refused
    refine ⟨name, notRead, ?_⟩
    intro other smaller
    rw [Setting.isValid_iff]
    intro otherCause otherRefused
    -- A refused value with a smaller key would stand in front, where all values are good.
    have written := OptionSources.effective?_of_refused otherRefused
    have present := (lists.mem_iff _ _).mpr written
    rw [split] at ordered present
    obtain ⟨_, behind, _⟩ := List.pairwise_append.mp ordered
    rcases List.mem_append.mp present with inFront | notInFront
    · refine accepted _ inFront otherCause ?_
      rw [readEntry_key]
      exact otherRefused
    · rcases List.mem_cons.mp notInFront with same | inBack
      · rw [(Prod.mk.inj same).1] at smaller
        exact absurd smaller (String.lt_irrefl _)
      · have larger := List.rel_of_pairwise_cons behind inBack
        exact absurd (String.lt_trans smaller larger) (String.lt_irrefl _)
  · rintro ⟨name, refused, valid⟩
    have written := OptionSources.effective?_of_refused refused
    obtain ⟨front, back, split⟩ := List.append_of_mem ((lists.mem_iff _ _).mpr written)
    refine ⟨front, name.key, _, back, split, ?_, ?_⟩
    · rintro ⟨otherKey, value⟩ inFront otherCause otherRefused
      have among : (otherKey, value) ∈ sources.merged.toList := by simp [split, inFront]
      obtain ⟨other, rfl, notRead⟩ :=
        exists_refused_of_readEntry ((lists.mem_iff _ _).mp among) otherRefused
      rw [split] at ordered
      obtain ⟨_, _, apart⟩ := List.pairwise_append.mp ordered
      have smaller : other.key < name.key := apart _ inFront _ (List.mem_cons_self ..)
      exact absurd notRead (Setting.isValid_iff.mp (valid other smaller) otherCause)
    · rw [readEntry_key]
      exact refused

end Merging

/-- What merging two sources gives. -/
structure Merging (sources : OptionSources) (key : String) : Prop where
  /-- Sources in which all options have the same values give the same options or the same error;
  an option that has no value counts as one whose value is `null`. -/
  decided : ∀ other : OptionSources, (∀ name, other.valueOf name = sources.valueOf name) →
    merge other key = merge sources key
  /-- A `null` of the request hides the value of the project, so the default holds. -/
  restored : ∀ (name : OptionName) (options : LoaderOptions),
    sources.query.get? name.key = some .null → merge sources key = .ok options →
    options.setting name = (defaults key).setting name
  /-- Options come out if the values hold of them, and they have the key of the instance. -/
  ok_iff : ∀ options : LoaderOptions, merge sources key = .ok options ↔
    options.key = key ∧ options.IsCoherent ∧
      ∀ name, (options.setting name).Holds (sources.valueOf name)
  /-- Merging fails exactly if the value of an option is not good. -/
  fails_iff : (∃ cause, merge sources key = .error cause) ↔
    ∃ name, ¬ Setting.IsValid name (sources.valueOf name)
  /-- The error is that of the least key whose value is not good. -/
  error_iff : ∀ cause : ConfigError, merge sources key = .error cause ↔
    ∃ name, Setting.read? name (sources.valueOf name) = .error cause ∧
      ∀ other : OptionName, other.key < name.key →
        Setting.IsValid other (sources.valueOf other)
  /-- Values that give options give the same ones in any order. -/
  any_order : ∀ (options : LoaderOptions) (entries : List (String × Json)),
    merge sources key = .ok options → sources.Lists entries →
    (defaults key).applyAll entries = .ok options

/-- Merging depends on the values that count, and on nothing else in the sources. -/
theorem merge_decided_by_values (sources : OptionSources) (key : String) :
    Merging sources key where
  decided := by
    intro other same
    cases outcome : merge sources key with
    | ok options =>
      rw [merge_eq_ok_iff] at outcome ⊢
      simpa only [same] using outcome
    | error cause =>
      rw [merge_eq_error_iff] at outcome ⊢
      simpa only [same] using outcome
  restored := by
    intro name options hidden success
    obtain ⟨_, _, holds⟩ := merge_eq_ok_iff.mp success
    have valueEq : sources.valueOf name = .null := by
      simp [OptionSources.valueOf, OptionSources.effective?, hidden]
    rw [setting_defaults]
    refine Setting.Holds.unique ?_ (valueEq ▸ holds name) (Setting.holds_default name)
    rw [name_setting, name_setting]
  ok_iff _ := merge_eq_ok_iff
  fails_iff := by
    constructor
    · rintro ⟨cause, failed⟩
      obtain ⟨name, refused, _⟩ := merge_eq_error_iff.mp failed
      refine ⟨name, ?_⟩
      intro valid
      exact Setting.isValid_iff.mp valid cause refused
    · rintro ⟨name, notValid⟩
      cases outcome : merge sources key with
      | error cause => exact ⟨cause, rfl⟩
      | ok options =>
        obtain ⟨_, _, holds⟩ := merge_eq_ok_iff.mp outcome
        exact absurd ⟨_, name_setting options name, holds name⟩ notValid
  error_iff _ := merge_eq_error_iff
  any_order := by
    intro options entries success lists
    exact (applyAll_eq_ok_iff lists).mpr (merge_eq_ok_iff.mp success)

end LoaderOptions

end ScriptLoader
