import ScriptLoader.Options.Raw
import ScriptLoader.Pattern.Matching

/-!
# Loader options

Options after they are checked, and how they are written back as JSON.
-/

namespace ScriptLoader

/-- How much informational output is wanted. -/
inductive LogLevel where
  | info
  | warn
  | error
  deriving DecidableEq, Repr, Inhabited

namespace LogLevel

/-- All levels. -/
def all : List LogLevel := [info, warn, error]

/-- The name of a level. -/
def name : LogLevel → String
  | info => "INFO"
  | warn => "WARN"
  | error => "ERROR"

/-- The level that a text names; ASCII case does not count. -/
def ofText (text : String) : Except ConfigError LogLevel :=
  match all.find? (·.name = text.toUpper) with
  | some level => .ok level
  | none => .error (.unknownLogLevel text)

end LogLevel

/-- What becomes of a tracked file that can no longer be read. -/
inductive UnreadablePolicy where
  /-- It stays tracked, and its content becomes empty. -/
  | empty
  /-- It is forgotten. -/
  | untrack
  deriving DecidableEq, Repr, Inhabited

namespace UnreadablePolicy

/-- All policies. -/
def all : List UnreadablePolicy := [empty, untrack]

/-- The name of a policy. -/
def name : UnreadablePolicy → String
  | empty => "empty"
  | untrack => "untrack"

/-- The policy that a text names; ASCII case does not count. -/
def ofText (text : String) : Except ConfigError UnreadablePolicy :=
  match all.find? (·.name = text.toLower) with
  | some policy => .ok policy
  | none => .error (.unknownPolicy text)

end UnreadablePolicy

/-- How the place of a diagnostic is shown in its message. -/
inductive ErrorFormat where
  /-- Line and character in front. -/
  | default
  /-- File, line and character in front. -/
  | visualStudio
  /-- File, line and character on a line of their own. -/
  | webStorm
  deriving DecidableEq, Repr

/-- The options of an instance. -/
structure LoaderOptions where
  /-- The key of the instance. -/
  key : String
  /-- No informational output. -/
  silent : Bool
  logLevel : LogLevel
  /-- The compiler to use. -/
  compiler : String
  /-- The configuration file for the compiler. -/
  configFileName : String
  /-- Every file is transformed on its own. -/
  transpileOnly : Bool
  visualStudioErrorFormat : Bool
  webStormErrorFormat : Bool
  /-- Settings for the compiler. -/
  compilerOptions : Json.Members
  /-- The patterns of the paths that are compiled under a name with `.ts` at its end. -/
  appendTsSuffixTo : List String
  entryFileIsJs : Bool
  /-- The codes of the diagnostics that are not reported. -/
  ignoreDiagnostics : List Nat
  watchUnreadable : UnreadablePolicy
  /-- The patterns of `appendTsSuffixTo`, ready for use. -/
  suffixPatterns : List Pattern

namespace LoaderOptions

/-- The options of an instance for which none are given. -/
def defaults (key : String) : LoaderOptions where
  key
  silent := false
  logLevel := .info
  compiler := "typescript"
  configFileName := "tsconfig.json"
  transpileOnly := false
  visualStudioErrorFormat := false
  webStormErrorFormat := false
  compilerOptions := ∅
  appendTsSuffixTo := []
  entryFileIsJs := false
  ignoreDiagnostics := []
  watchUnreadable := .empty
  suffixPatterns := []

/-- The format of error messages. -/
def errorFormat (options : LoaderOptions) : ErrorFormat :=
  if options.webStormErrorFormat then .webStorm
  else if options.visualStudioErrorFormat then .visualStudio
  else .default

/-- Whether informational output is wanted. -/
def logsInfo (options : LoaderOptions) : Bool :=
  !options.silent && options.logLevel = .info

/-- Whether diagnostics with a code are not reported. -/
def isIgnored (options : LoaderOptions) (code : Nat) : Bool :=
  options.ignoreDiagnostics.contains code

/-- The name under which a path is compiled. -/
def compilePath (options : LoaderOptions) (path : String) : String :=
  if options.suffixPatterns.any (·.matchesIn path) then path ++ ".ts" else path

/-- The options as a JSON object. -/
def toJson (options : LoaderOptions) : Json :=
  .ofMembers (Json.membersOf
    [("instance", .string options.key),
      ("silent", .bool options.silent),
      ("logLevel", .string options.logLevel.name),
      ("compiler", .string options.compiler),
      ("configFileName", .string options.configFileName),
      ("transpileOnly", .bool options.transpileOnly),
      ("visualStudioErrorFormat", .bool options.visualStudioErrorFormat),
      ("webStormErrorFormat", .bool options.webStormErrorFormat),
      ("compilerOptions", .ofMembers options.compilerOptions),
      ("appendTsSuffixTo", .ofTexts options.appendTsSuffixTo),
      ("entryFileIsJs", .bool options.entryFileIsJs),
      ("ignoreDiagnostics", .array (options.ignoreDiagnostics.map .ofNat)),
      ("watchUnreadable", .string options.watchUnreadable.name)])

end LoaderOptions

end ScriptLoader
