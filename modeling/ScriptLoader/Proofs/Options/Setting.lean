import ScriptLoader.Options.Merge
import ScriptLoader.Proofs.Collection
import ScriptLoader.Proofs.Outcome

/-!
# What options say, one option at a time

Options are a key and, for each of the twelve names, a setting. `setting` reads off what they
say of a name, and `setting_put` is all that putting a setting into them does, so settings of
different names can be put in any order. The relation `IsWritten` lists the values that write a
setting, and `read_eq_ok_iff` says that reading finds what they write and refuses all others.
-/

namespace ScriptLoader

/-- A level is found by its name. -/
theorem LogLevel.find?_name (level : LogLevel) : all.find? (·.name = level.name) = some level := by
  cases level <;> decide

/-- A level is read from its name in any case of letters. -/
theorem LogLevel.ofText_eq_ok {level : LogLevel} {text : String} :
    LogLevel.ofText text = .ok level ↔ level.name = text.toUpper := by
  rw [← Collection.find?_name_eq_some_iff find?_name, LogLevel.ofText]
  cases all.find? (·.name = text.toUpper) <;> simp

/-- A policy is found by its name. -/
theorem UnreadablePolicy.find?_name (policy : UnreadablePolicy) :
    all.find? (·.name = policy.name) = some policy := by
  cases policy <;> decide

/-- A policy is read from its name in any case of letters. -/
theorem UnreadablePolicy.ofText_eq_ok {policy : UnreadablePolicy} {text : String} :
    UnreadablePolicy.ofText text = .ok policy ↔ policy.name = text.toLower := by
  rw [← Collection.find?_name_eq_some_iff find?_name, UnreadablePolicy.ofText]
  cases all.find? (·.name = text.toLower) <;> simp

namespace OptionName

/-- The list of options is complete. -/
theorem mem_all (name : OptionName) : name ∈ all := by
  cases name <;> decide

/-- An option is found by its key. -/
theorem ofKey?_key (name : OptionName) : ofKey? name.key = some name := by
  cases name <;> decide

/-- Keys tell options apart. -/
theorem ofKey?_eq_some_iff {key : String} {name : OptionName} :
    ofKey? key = some name ↔ name.key = key :=
  Collection.find?_name_eq_some_iff ofKey?_key

end OptionName

/-- The option that a setting is about. -/
def Setting.name : Setting → OptionName
  | silent _ => .silent
  | logLevel _ => .logLevel
  | compiler _ => .compiler
  | configFileName _ => .configFileName
  | transpileOnly _ => .transpileOnly
  | visualStudioErrorFormat _ => .visualStudioErrorFormat
  | webStormErrorFormat _ => .webStormErrorFormat
  | compilerOptions _ => .compilerOptions
  | appendTsSuffixTo _ => .appendTsSuffixTo
  | entryFileIsJs _ => .entryFileIsJs
  | ignoreDiagnostics _ => .ignoreDiagnostics
  | watchUnreadable _ => .watchUnreadable

namespace LoaderOptions

/-- What options say of a name. -/
def setting (options : LoaderOptions) : OptionName → Setting
  | .silent => .silent options.silent
  | .logLevel => .logLevel options.logLevel
  | .compiler => .compiler options.compiler
  | .configFileName => .configFileName options.configFileName
  | .transpileOnly => .transpileOnly options.transpileOnly
  | .visualStudioErrorFormat => .visualStudioErrorFormat options.visualStudioErrorFormat
  | .webStormErrorFormat => .webStormErrorFormat options.webStormErrorFormat
  | .compilerOptions => .compilerOptions options.compilerOptions
  | .appendTsSuffixTo => .appendTsSuffixTo options.suffixPatterns
  | .entryFileIsJs => .entryFileIsJs options.entryFileIsJs
  | .ignoreDiagnostics => .ignoreDiagnostics options.ignoreDiagnostics
  | .watchUnreadable => .watchUnreadable options.watchUnreadable

/-- The source texts of the suffix patterns are those of the patterns that are ready for use. -/
def IsCoherent (options : LoaderOptions) : Prop :=
  options.appendTsSuffixTo = options.suffixPatterns.map (·.source)

/-- The setting of an option is one for this option. -/
theorem name_setting (options : LoaderOptions) (name : OptionName) :
    (options.setting name).name = name := by
  cases name <;> rfl

/-- The default settings are the same for every instance. -/
theorem setting_defaults (key : String) (name : OptionName) :
    (defaults key).setting name = (defaults "").setting name := by
  cases name <;> rfl

/-- The default patterns are those of the default texts. -/
theorem isCoherent_defaults (key : String) : (defaults key).IsCoherent :=
  rfl

/-- Coherent options are all that they say, and their key. -/
theorem ext_setting {first second : LoaderOptions} (firstCoherent : first.IsCoherent)
    (secondCoherent : second.IsCoherent) (keyEq : first.key = second.key)
    (settingEq : ∀ name, first.setting name = second.setting name) : first = second := by
  have patternsEq : first.suffixPatterns = second.suffixPatterns := by
    simpa [setting] using settingEq .appendTsSuffixTo
  have sourcesEq : first.appendTsSuffixTo = second.appendTsSuffixTo := by
    rw [firstCoherent, secondCoherent, patternsEq]
  have silentEq := settingEq .silent
  have logLevelEq := settingEq .logLevel
  have compilerEq := settingEq .compiler
  have configFileNameEq := settingEq .configFileName
  have transpileOnlyEq := settingEq .transpileOnly
  have visualStudioEq := settingEq .visualStudioErrorFormat
  have webStormEq := settingEq .webStormErrorFormat
  have compilerOptionsEq := settingEq .compilerOptions
  have entryFileIsJsEq := settingEq .entryFileIsJs
  have ignoreDiagnosticsEq := settingEq .ignoreDiagnostics
  have watchUnreadableEq := settingEq .watchUnreadable
  cases first
  cases second
  simp_all [setting]

section Putting

variable (said : Setting) (options : LoaderOptions)

/-- Putting a setting into options changes what they say of its name, and nothing else. -/
theorem setting_put (name : OptionName) :
    (said.put options).setting name = if said.name = name then said else options.setting name := by
  cases said <;> cases name <;> rfl

/-- Putting a setting leaves the key. -/
theorem key_put : (said.put options).key = options.key := by
  cases said <;> rfl

/-- Putting a setting keeps the patterns in step with their texts. -/
theorem isCoherent_put {options : LoaderOptions} (coherent : options.IsCoherent) :
    (said.put options).IsCoherent := by
  cases said with
  | appendTsSuffixTo patterns => rfl
  | _ => exact coherent

end Putting

end LoaderOptions

namespace Setting

/-- What holds of a name when nothing is said. -/
def default (name : OptionName) : Setting :=
  (LoaderOptions.defaults "").setting name

/-- A value writes a setting. -/
inductive IsWritten : Setting → Json → Prop where
  | silent (value : Bool) : IsWritten (.silent value) (.bool value)
  | logLevel {level : LogLevel} {text : String} (named : level.name = text.toUpper) :
      IsWritten (.logLevel level) (.string text)
  | compiler (name : String) : IsWritten (.compiler name) (.string name)
  | configFileName (name : String) : IsWritten (.configFileName name) (.string name)
  | transpileOnly (value : Bool) : IsWritten (.transpileOnly value) (.bool value)
  | visualStudioErrorFormat (value : Bool) :
      IsWritten (.visualStudioErrorFormat value) (.bool value)
  | webStormErrorFormat (value : Bool) : IsWritten (.webStormErrorFormat value) (.bool value)
  | compilerOptions (members : List (String × Json)) :
      IsWritten (.compilerOptions (Json.membersOf members)) (.object members)
  /-- One text or a list of texts that follow the grammar of patterns. -/
  | appendTsSuffixTo {value : Json} {patterns : List Pattern}
      (compiled : List.Forall₂ (fun item pattern => ∃ source, item = .string source ∧
        Pattern.compile? source = some pattern) (listOf value) patterns) :
      IsWritten (.appendTsSuffixTo patterns) value
  | entryFileIsJs (value : Bool) : IsWritten (.entryFileIsJs value) (.bool value)
  /-- One code or a list of codes, as numbers or as texts. -/
  | ignoreDiagnostics {value : Json} {codes : List Nat}
      (counted : List.Forall₂ (fun item code => codeOf? item = some code) (listOf value) codes) :
      IsWritten (.ignoreDiagnostics codes) value
  | watchUnreadable {policy : UnreadablePolicy} {text : String}
      (named : policy.name = text.toLower) : IsWritten (.watchUnreadable policy) (.string text)

/-- What holds of an option that has a value: what the value writes, or what holds by default
if the value is `null`. -/
def Holds (said : Setting) (value : Json) : Prop :=
  said.IsWritten value ∨ value = .null ∧ said = default said.name

/-- A value is good for an option. -/
def IsValid (name : OptionName) (value : Json) : Prop :=
  ∃ said : Setting, said.name = name ∧ said.Holds value

/-- The default setting of an option is one for this option. -/
theorem name_default (name : OptionName) : (default name).name = name :=
  LoaderOptions.name_setting _ name

/-- An option that is null has its default. -/
theorem holds_default (name : OptionName) : (default name).Holds .null :=
  .inr ⟨rfl, by rw [name_default]⟩

/-- Every option may be null. -/
theorem isValid_null (name : OptionName) : IsValid name .null :=
  ⟨default name, name_default name, holds_default name⟩

section Reading

variable {name : OptionName} {value : Json}

private theorem readBool_eq_ok {flag : Bool} :
    readBool name value = .ok flag ↔ value = .bool flag := by
  cases value <;> simp [readBool]

private theorem readText_eq_ok {text : String} :
    readText name value = .ok text ↔ value = .string text := by
  cases value <;> simp [readText]

private theorem readObject_eq_ok {members : Json.Members} :
    readObject name value = .ok members ↔
      ∃ written, value = .object written ∧ Json.membersOf written = members := by
  cases value <;> simp [readObject]

/-- A code is accepted if it is read as a number. -/
theorem readCode_eq_ok {code : Nat} : readCode value = .ok code ↔ codeOf? value = some code := by
  unfold readCode
  cases codeOf? value <;> simp

/-- A pattern is accepted if it is a text that compiles. -/
theorem readPattern_eq_ok {pattern : Pattern} :
    readPattern name value = .ok pattern ↔
      ∃ source, value = .string source ∧ Pattern.compile? source = some pattern := by
  cases value with
  | string source =>
    cases compiled : Pattern.compile? source <;>
      simp [readPattern, readText, bind, Except.bind, pure, Except.pure, throw, throwThe,
        MonadExceptOf.throw, compiled]
  | _ => simp [readPattern, readText, bind, Except.bind]

/-- Reading finds the setting of an option that a value writes, and no other. -/
theorem read_eq_ok_iff {said : Setting} :
    read name value = .ok said ↔ said.name = name ∧ said.IsWritten value := by
  constructor
  · intro success
    cases name <;> obtain ⟨content, given, rfl⟩ := map_eq_ok.mp success <;> refine ⟨rfl, ?_⟩
    case silent => exact readBool_eq_ok.mp given ▸ .silent content
    case logLevel =>
      obtain ⟨text, isText, named⟩ := bind_eq_ok.mp given
      exact readText_eq_ok.mp isText ▸ .logLevel (LogLevel.ofText_eq_ok.mp named)
    case compiler => exact readText_eq_ok.mp given ▸ .compiler content
    case configFileName => exact readText_eq_ok.mp given ▸ .configFileName content
    case transpileOnly => exact readBool_eq_ok.mp given ▸ .transpileOnly content
    case visualStudioErrorFormat =>
      exact readBool_eq_ok.mp given ▸ .visualStudioErrorFormat content
    case webStormErrorFormat => exact readBool_eq_ok.mp given ▸ .webStormErrorFormat content
    case compilerOptions =>
      obtain ⟨members, rfl, rfl⟩ := readObject_eq_ok.mp given
      exact .compilerOptions members
    case appendTsSuffixTo =>
      exact .appendTsSuffixTo ((mapM_eq_ok.mp given).imp fun _ _ => readPattern_eq_ok.mp)
    case entryFileIsJs => exact readBool_eq_ok.mp given ▸ .entryFileIsJs content
    case ignoreDiagnostics =>
      exact .ignoreDiagnostics ((mapM_eq_ok.mp given).imp fun _ _ => readCode_eq_ok.mp)
    case watchUnreadable =>
      obtain ⟨text, isText, named⟩ := bind_eq_ok.mp given
      exact readText_eq_ok.mp isText ▸ .watchUnreadable (UnreadablePolicy.ofText_eq_ok.mp named)
  · rintro ⟨rfl, written⟩
    cases written with
    | logLevel named =>
      exact map_eq_ok.mpr ⟨_, bind_eq_ok.mpr ⟨_, rfl, LogLevel.ofText_eq_ok.mpr named⟩, rfl⟩
    | appendTsSuffixTo compiled =>
      refine map_eq_ok.mpr ⟨_, mapM_eq_ok.mpr ?_, rfl⟩
      exact compiled.imp fun _ _ => readPattern_eq_ok.mpr
    | ignoreDiagnostics counted =>
      refine map_eq_ok.mpr ⟨_, mapM_eq_ok.mpr ?_, rfl⟩
      exact counted.imp fun _ _ => readCode_eq_ok.mpr
    | watchUnreadable named =>
      exact map_eq_ok.mpr
        ⟨_, bind_eq_ok.mpr ⟨_, rfl, UnreadablePolicy.ofText_eq_ok.mpr named⟩, rfl⟩
    | _ => rfl

/-- Where `null` is a list, it is the list that holds by default. -/
theorem eq_default_of_isWritten_null {said : Setting} (written : said.IsWritten .null) :
    said = default said.name := by
  cases written with
  | appendTsSuffixTo compiled =>
    cases compiled
    rfl
  | ignoreDiagnostics counted =>
    cases counted
    rfl

/-- Null sets nothing, or sets the default. -/
theorem read?_null (name : OptionName) :
    read? name .null = .ok none ∨ read? name .null = .ok (some (default name)) := by
  cases name
  case appendTsSuffixTo => exact .inr rfl
  case ignoreDiagnostics => exact .inr rfl
  all_goals exact .inl rfl

/-- Any other value is read as what the option says. -/
theorem read?_of_ne_null (given : value ≠ .null) :
    read? name value = some <$> read name value := by
  cases value with
  | null => exact absurd rfl given
  | _ => rfl

/-- A value is read as what holds of the option then; what is not said holds by default. -/
theorem read?_getD_iff {said : Setting} :
    (∃ given, read? name value = .ok given ∧ given.getD (default name) = said) ↔
      said.name = name ∧ said.Holds value := by
  by_cases isNull : value = .null
  · subst isNull
    have holds_iff : said.Holds .null ↔ said = default said.name := by
      constructor
      · rintro (written | ⟨_, byDefault⟩)
        · exact eq_default_of_isWritten_null written
        · exact byDefault
      · intro byDefault
        exact .inr ⟨rfl, byDefault⟩
    have found_iff : (∃ given, read? name .null = .ok given ∧ given.getD (default name) = said) ↔
        said = default name := by
      rcases read?_null name with unsaid | byDefault
      · simp [unsaid, eq_comm]
      · simp [byDefault, eq_comm]
    rw [found_iff, holds_iff]
    constructor
    · rintro rfl
      rw [name_default]
      exact ⟨rfl, rfl⟩
    · rintro ⟨rfl, byDefault⟩
      exact byDefault
  · have holds_iff : said.Holds value ↔ said.IsWritten value := by
      simp [Holds, isNull]
    rw [holds_iff, ← read_eq_ok_iff, read?_of_ne_null isNull]
    constructor
    · rintro ⟨given, found, rfl⟩
      obtain ⟨_, written, rfl⟩ := map_eq_ok.mp found
      exact written
    · intro written
      exact ⟨some said, map_eq_ok.mpr ⟨said, written, rfl⟩, rfl⟩

/-- A value is refused if it is not good for the option. -/
theorem isValid_iff : IsValid name value ↔ ∀ cause, read? name value ≠ .error cause := by
  constructor
  · rintro ⟨said, named, holds⟩ cause refused
    obtain ⟨given, found, _⟩ := read?_getD_iff.mpr ⟨named, holds⟩
    rw [found] at refused
    cases refused
  · intro accepted
    cases found : read? name value with
    | error cause => exact absurd found (accepted cause)
    | ok given => exact ⟨_, read?_getD_iff.mp ⟨given, found, rfl⟩⟩

/-- A value decides what holds of an option. -/
theorem Holds.unique {first second : Setting} (named : first.name = second.name)
    (firstHolds : first.Holds value) (secondHolds : second.Holds value) : first = second := by
  obtain ⟨given, found, firstEq⟩ := read?_getD_iff.mpr ⟨named, firstHolds⟩
  obtain ⟨again, foundAgain, secondEq⟩ := read?_getD_iff.mpr ⟨rfl, secondHolds⟩
  obtain rfl := Except.ok.inj (found.symm.trans foundAgain)
  exact firstEq.symm.trans secondEq

end Reading

end Setting

end ScriptLoader
