import ScriptLoader.Options.Basic

/-!
# Settings

What one option says. The value of an option is checked on its own, without regard to any
other, and what it says is then put into the options.
-/

namespace ScriptLoader

/-- An option that is checked. -/
inductive OptionName where
  | silent
  | logLevel
  | compiler
  | configFileName
  | transpileOnly
  | visualStudioErrorFormat
  | webStormErrorFormat
  | compilerOptions
  | appendTsSuffixTo
  | entryFileIsJs
  | ignoreDiagnostics
  | watchUnreadable
  deriving DecidableEq, Repr

namespace OptionName

/-- All options that are checked. -/
def all : List OptionName :=
  [silent, logLevel, compiler, configFileName, transpileOnly, visualStudioErrorFormat,
    webStormErrorFormat, compilerOptions, appendTsSuffixTo, entryFileIsJs, ignoreDiagnostics,
    watchUnreadable]

/-- The key of an option. -/
def key : OptionName → String
  | silent => "silent"
  | logLevel => "logLevel"
  | compiler => "compiler"
  | configFileName => "configFileName"
  | transpileOnly => "transpileOnly"
  | visualStudioErrorFormat => "visualStudioErrorFormat"
  | webStormErrorFormat => "webStormErrorFormat"
  | compilerOptions => "compilerOptions"
  | appendTsSuffixTo => "appendTsSuffixTo"
  | entryFileIsJs => "entryFileIsJs"
  | ignoreDiagnostics => "ignoreDiagnostics"
  | watchUnreadable => "watchUnreadable"

/-- The option with a key. -/
def ofKey? (key : String) : Option OptionName :=
  all.find? (·.key = key)

end OptionName

/-- What an option says. -/
inductive Setting where
  | silent (value : Bool)
  | logLevel (level : LogLevel)
  | compiler (name : String)
  | configFileName (name : String)
  | transpileOnly (value : Bool)
  | visualStudioErrorFormat (value : Bool)
  | webStormErrorFormat (value : Bool)
  | compilerOptions (options : Json.Members)
  | appendTsSuffixTo (patterns : List Pattern)
  | entryFileIsJs (value : Bool)
  | ignoreDiagnostics (codes : List Nat)
  | watchUnreadable (policy : UnreadablePolicy)

namespace Setting

/-- A value of either kind as a list: `null` is the empty one. -/
def listOf : Json → List Json
  | .null => []
  | .array items => items
  | item => [item]

/-- The whole number that a text writes: digits, and perhaps a plus sign, with blanks
around. -/
def countOf? (text : String) : Option Nat :=
  let text := Text.trimBlanks text.toList
  let digits :=
    match text with
    | '+' :: digits => digits
    | digits => digits
  if digits ≠ [] && digits.all Char.isDigit then
    some (Json.ofDigits 10 (digits.map Json.digitValue))
  else none

/-- The code of a diagnostic that a value stands for: a whole number, or a text that writes
one, of at most 32 bits. -/
def codeOf? (value : Json) : Option Nat :=
  let code :=
    match value with
    | .number (.natural code) => some code
    | .string text => countOf? text
    | _ => none
  code.filter (· < 0x100000000)

/-- The code of a diagnostic, or why a value is none. -/
def readCode (value : Json) : Except ConfigError Nat :=
  match codeOf? value with
  | some code => .ok code
  | none => .error (.notACode value)

/-- A boolean value of an option. -/
def readBool (name : OptionName) : Json → Except ConfigError Bool
  | .bool value => .ok value
  | other => .error (.wrongKind name.key "a boolean" other.kind)

/-- A text as the value of an option. -/
def readText (name : OptionName) : Json → Except ConfigError String
  | .string value => .ok value
  | other => .error (.wrongKind name.key "a string" other.kind)

/-- An object as the value of an option. -/
def readObject (name : OptionName) : Json → Except ConfigError Json.Members
  | .object members => .ok (Json.membersOf members)
  | other => .error (.wrongKind name.key "an object" other.kind)

/-- A pattern as a value of an option. -/
def readPattern (name : OptionName) (value : Json) : Except ConfigError Pattern := do
  let source ← readText name value
  match Pattern.compile? source with
  | some pattern => return pattern
  | none => throw (.badPattern source "not a pattern")

/-- What a value says, other than the `null` that stands for nothing. -/
def read (name : OptionName) (value : Json) : Except ConfigError Setting :=
  match name with
  | .silent => .silent <$> readBool name value
  | .logLevel => .logLevel <$> (readText name value >>= LogLevel.ofText)
  | .compiler => .compiler <$> readText name value
  | .configFileName => .configFileName <$> readText name value
  | .transpileOnly => .transpileOnly <$> readBool name value
  | .visualStudioErrorFormat => .visualStudioErrorFormat <$> readBool name value
  | .webStormErrorFormat => .webStormErrorFormat <$> readBool name value
  | .compilerOptions => .compilerOptions <$> readObject name value
  | .appendTsSuffixTo => .appendTsSuffixTo <$> (listOf value).mapM (readPattern name)
  | .entryFileIsJs => .entryFileIsJs <$> readBool name value
  | .ignoreDiagnostics => .ignoreDiagnostics <$> (listOf value).mapM readCode
  | .watchUnreadable => .watchUnreadable <$> (readText name value >>= UnreadablePolicy.ofText)

/-- Whether `null` is a value of an option like others, a list without items. -/
def takesNull : OptionName → Bool
  | .appendTsSuffixTo => true
  | .ignoreDiagnostics => true
  | _ => false

/-- What the value of an option says, if it says anything. -/
def read? (name : OptionName) (value : Json) : Except ConfigError (Option Setting) :=
  match value with
  | .null => if takesNull name then some <$> read name .null else .ok none
  | value => some <$> read name value

/-- Puts what an option says into options. -/
def put (options : LoaderOptions) : Setting → LoaderOptions
  | silent value => { options with silent := value }
  | logLevel level => { options with logLevel := level }
  | compiler name => { options with compiler := name }
  | configFileName name => { options with configFileName := name }
  | transpileOnly value => { options with transpileOnly := value }
  | visualStudioErrorFormat value => { options with visualStudioErrorFormat := value }
  | webStormErrorFormat value => { options with webStormErrorFormat := value }
  | compilerOptions settings => { options with compilerOptions := settings }
  | appendTsSuffixTo patterns =>
    { options with appendTsSuffixTo := patterns.map (·.source), suffixPatterns := patterns }
  | entryFileIsJs value => { options with entryFileIsJs := value }
  | ignoreDiagnostics codes => { options with ignoreDiagnostics := codes }
  | watchUnreadable policy => { options with watchUnreadable := policy }

end Setting

end ScriptLoader
