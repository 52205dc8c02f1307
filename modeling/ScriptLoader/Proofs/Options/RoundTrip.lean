import ScriptLoader.Proofs.Options.Merge

/-!
# Options that are written and merged again

Options that came out of sources can be written as an object, and the object is a source again.
Every setting is written as a value that says it: names are read in any case, patterns keep
their source texts, and codes are small enough. So the options come back as they were, and with
them the patterns, which are the compiled forms of the source texts.
-/

namespace ScriptLoader

/-- A pattern keeps the text that it was read from. -/
theorem Pattern.source_of_compile? {source : String} {pattern : Pattern}
    (compiled : Pattern.compile? source = some pattern) : pattern.source = source := by
  unfold Pattern.compile? at compiled
  simp only [Option.bind_eq_bind, Option.bind_eq_some_iff, Option.pure_def,
    Option.some.injEq] at compiled
  obtain ⟨_, _, _, _, _, _, rfl⟩ := compiled
  rfl

namespace Setting

/-- A setting as a value of its option. -/
def toJson : Setting → Json
  | silent value => .bool value
  | logLevel level => .string level.name
  | compiler name => .string name
  | configFileName name => .string name
  | transpileOnly value => .bool value
  | visualStudioErrorFormat value => .bool value
  | webStormErrorFormat value => .bool value
  | compilerOptions members => .ofMembers members
  | appendTsSuffixTo patterns => .ofTexts (patterns.map (·.source))
  | entryFileIsJs value => .bool value
  | ignoreDiagnostics codes => .array (codes.map .ofNat)
  | watchUnreadable policy => .string policy.name

/-- Patterns that were read are the compiled forms of their source texts. -/
theorem compile?_of_holds {patterns : List Pattern} {value : Json}
    (holds : (appendTsSuffixTo patterns).Holds value) :
    ∀ pattern ∈ patterns, Pattern.compile? pattern.source = some pattern := by
  rcases holds with written | ⟨_, byDefault⟩
  · cases written with
    | appendTsSuffixTo compiled =>
      intro pattern member
      obtain ⟨_, _, source, _, found⟩ := exists_of_mem_results compiled pattern member
      rw [Pattern.source_of_compile? found, found]
  · obtain rfl := Setting.appendTsSuffixTo.inj byDefault
    simp [LoaderOptions.defaults]

/-- Codes that were read are small enough to be read again. -/
theorem codeOf?_of_holds {codes : List Nat} {value : Json}
    (holds : (ignoreDiagnostics codes).Holds value) :
    ∀ code ∈ codes, codeOf? (.ofNat code) = some code := by
  rcases holds with written | ⟨_, byDefault⟩
  · cases written with
    | ignoreDiagnostics counted =>
      intro code member
      obtain ⟨_, _, found⟩ := exists_of_mem_results counted code member
      have small : code < 0x100000000 := by
        simpa using (Option.filter_eq_some_iff.mp found).2
      simp [codeOf?, Json.ofNat, small]
  · obtain rfl := Setting.ignoreDiagnostics.inj byDefault
    simp [LoaderOptions.defaults]

/-- A setting that holds is written as a value that says it. -/
theorem isWritten_toJson {said : Setting} {value : Json} (holds : said.Holds value) :
    said.IsWritten said.toJson := by
  cases said with
  | logLevel level => exact .logLevel (by cases level <;> decide +kernel)
  | watchUnreadable policy => exact .watchUnreadable (by cases policy <;> decide +kernel)
  | compilerOptions members =>
    have written := IsWritten.compilerOptions members.toList
    rw [Json.membersOf, Collection.ofList_toList] at written
    exact written
  | appendTsSuffixTo patterns =>
    refine .appendTsSuffixTo ?_
    rw [toJson, Json.ofTexts, listOf, List.forall₂_map_left_iff, List.forall₂_map_left_iff,
      List.forall₂_same]
    intro pattern member
    exact ⟨pattern.source, rfl, compile?_of_holds holds pattern member⟩
  | ignoreDiagnostics codes =>
    refine .ignoreDiagnostics ?_
    rw [toJson, listOf, List.forall₂_map_left_iff, List.forall₂_same]
    exact codeOf?_of_holds holds
  | silent value => exact .silent value
  | compiler name => exact .compiler name
  | configFileName name => exact .configFileName name
  | transpileOnly value => exact .transpileOnly value
  | visualStudioErrorFormat value => exact .visualStudioErrorFormat value
  | webStormErrorFormat value => exact .webStormErrorFormat value
  | entryFileIsJs value => exact .entryFileIsJs value

end Setting

/-- An object writes the options with its members. -/
theorem RawOptions.ofJson_ofMembers (members : Json.Members) :
    RawOptions.ofJson (.ofMembers members) = .ok ⟨members⟩ := by
  rw [Json.ofMembers, RawOptions.ofJson, Json.membersOf, Collection.ofList_toList]

namespace LoaderOptions

/-- The members of options as an object: their key, and each setting under its name. -/
def written (options : LoaderOptions) : List (String × Json) :=
  ("instance", .string options.key) ::
    OptionName.all.map fun name => (name.key, (options.setting name).toJson)

/-- Options are written as the object with a member for each setting. -/
theorem toJson_eq {options : LoaderOptions} (coherent : options.IsCoherent) :
    options.toJson = .ofMembers (Json.membersOf options.written) := by
  unfold toJson
  rw [coherent]
  rfl

/-- Under the name of an option stands its setting. -/
theorem getElem?_written (options : LoaderOptions) (name : OptionName) :
    (Json.membersOf options.written)[name.key]? = some (options.setting name).toJson := by
  have keysDistinct : ("instance" :: OptionName.all.map OptionName.key).Pairwise
      fun first second => ¬ compare first second = .eq := by decide +kernel
  have keysEq : options.written.map (·.1) = "instance" :: OptionName.all.map OptionName.key := rfl
  rw [← keysEq, List.pairwise_map] at keysDistinct
  have member : (name.key, (options.setting name).toJson) ∈ options.written :=
    List.mem_cons_of_mem _ (List.mem_map.mpr ⟨name, name.mem_all, rfl⟩)
  exact Std.ExtTreeMap.getElem?_ofList_of_mem Std.ReflCmp.compare_self keysDistinct member

/-- Options that came out of sources are written as an object that is a source, and come out of
it again, whether it is the project's or that of the request. The patterns in them are the
compiled forms of the source texts, in their order. -/
theorem merge_written {sources : OptionSources} {key : String} {options : LoaderOptions}
    (success : merge sources key = .ok options) :
    ∃ raw, RawOptions.ofJson options.toJson = .ok raw ∧
      merge ⟨raw, ∅⟩ key = .ok options ∧ merge ⟨∅, raw⟩ key = .ok options ∧
      options.appendTsSuffixTo.map Pattern.compile? = options.suffixPatterns.map some := by
  obtain ⟨keyEq, coherent, holds⟩ := merge_eq_ok_iff.mp success
  let raw : RawOptions := ⟨Json.membersOf options.written⟩
  have comesBack : ∀ again : OptionSources,
      (∀ name : OptionName, again.effective? name.key = raw.get? name.key) →
      merge again key = .ok options := by
    intro again effectiveEq
    refine merge_eq_ok_iff.mpr ⟨keyEq, coherent, ?_⟩
    intro name
    have valueEq : again.valueOf name = (options.setting name).toJson :=
      OptionSources.valueOf_of_effective? ((effectiveEq name).trans (getElem?_written options name))
    rw [valueEq]
    exact .inl (Setting.isWritten_toJson (holds name))
  refine ⟨raw, ?_, comesBack _ ?_, comesBack _ ?_, ?_⟩
  · rw [toJson_eq coherent]
    exact RawOptions.ofJson_ofMembers raw.members
  · intro name
    simp [OptionSources.effective?]
  · intro name
    simp [OptionSources.effective?]
  · rw [coherent, List.map_map]
    refine List.map_congr_left ?_
    intro pattern member
    exact Setting.compile?_of_holds (holds .appendTsSuffixTo) pattern member

/-- Sources that write their options in unusual ways. -/
def looseSources : OptionSources :=
  ⟨(RawOptions.empty.set "logLevel" (.string "Warn")).set "ignoreDiagnostics"
      (.array [.string " +0042 ", .ofNat 7]),
    (RawOptions.empty.set "appendTsSuffixTo" (.string "\\.vue$")).set "compilerOptions"
      (.object [("strict", .bool true), ("lib", .array []), ("strict", .bool false)])⟩

/-- A level in mixed case, a code with blanks, a plus sign and leading zeros, a single pattern and
an object with a repeated member are merged, and what comes out can be merged again. -/
theorem merge_written_of_loose :
    ∃ options raw, merge looseSources "0_app" = .ok options ∧
      options.logLevel = .warn ∧ options.ignoreDiagnostics = [42, 7] ∧
      options.appendTsSuffixTo = ["\\.vue$"] ∧
      RawOptions.ofJson options.toJson = .ok raw ∧
      merge ⟨raw, ∅⟩ "0_app" = .ok options ∧ merge ⟨∅, raw⟩ "0_app" = .ok options := by
  have checked : (merge looseSources "0_app").toOption.map
      (fun options => (options.logLevel, options.ignoreDiagnostics, options.appendTsSuffixTo)) =
        some (.warn, [42, 7], ["\\.vue$"]) := by decide +kernel
  obtain ⟨options, success, readEq⟩ := exists_ok_of_map_toOption checked
  obtain ⟨raw, isSource, fromProject, fromRequest, _⟩ := merge_written success
  simp only [Prod.mk.injEq] at readEq
  exact ⟨options, raw, success, readEq.1, readEq.2.1, readEq.2.2, isSource, fromProject,
    fromRequest⟩

end LoaderOptions

end ScriptLoader
