import ScriptLoader.FileStore.Basic
import ScriptLoader.Json.Compact
import ScriptLoader.Path.Kind

/-!
# Errors

The causes for which options are refused or a request is given up, and their words. What a
compiler reports about a program is no error; it travels as a record in the result.
-/

namespace ScriptLoader

/-- Why options cannot be used. -/
inductive ConfigError where
  /-- Options are written as a value of another kind than an object. -/
  | notAnObject (kind : String)
  /-- Options are written in a text that is no JSON. -/
  | unreadable (detail : String)
  /-- An option has a value of the wrong kind. -/
  | wrongKind (option expected kind : String)
  | unknownLogLevel (text : String)
  | unknownPolicy (text : String)
  /-- A suffix pattern does not follow the grammar of patterns. -/
  | badPattern (pattern detail : String)
  | notACode (value : Json)
  /-- The compiler of an instance could not be made. -/
  | noCompiler (key cause : String)
  /-- Any other cause, in the words of whoever found it. -/
  | other (message : String)

/-- The words for a cause. -/
def ConfigError.message : ConfigError → String
  | notAnObject kind => "Loader options must be an object, got " ++ kind
  | unreadable detail => "Invalid loader options: " ++ detail
  | wrongKind option expected kind => s!"{option} must be {expected}, got {kind}"
  | unknownLogLevel text => s!"logLevel must be one of INFO, WARN, ERROR, got '{text}'"
  | unknownPolicy text => s!"watchUnreadable must be 'empty' or 'untrack', got '{text}'"
  | badPattern pattern detail => s!"Invalid appendTsSuffixTo pattern '{pattern}': {detail}"
  | notACode value =>
    "ignoreDiagnostics entries must be diagnostic codes, got " ++ value.compact
  | noCompiler key cause => s!"Failed to create compiler for {key}: {cause}"
  | other message => message

/-- Why a request is given up. -/
inductive LoaderError where
  | config (cause : ConfigError)
  /-- The compiler emitted nothing for a file. -/
  | noOutput (path : String)
  | compiler (message : String)
  | cache (cause : CacheError)
  /-- A text is no JSON of the expected form. -/
  | serialization (detail : String)
  | disk (cause : DiskError)
  | internal (message : String)

namespace LoaderError

/-- What to do about a missing output in a third-party package. -/
def vendorGuidance : String :=
  "\nYou should not need to recompile .ts files in node_modules.\n" ++
  "Please contact the package author to advise them to use --declaration --outDir.\n" ++
  "More https://github.com/Microsoft/TypeScript/issues/12358"

/-- The advice that goes with a missing output; it is empty for a file of one's own. -/
def guidance (path : String) : String :=
  if Path.isVendored path then vendorGuidance else ""

/-- The words for an error. -/
def message : LoaderError → String
  | config cause => "Configuration error: " ++ cause.message
  | noOutput path => s!"TypeScript emitted no output for {path}.{guidance path}"
  | compiler message => "Compiler error: " ++ message
  | cache cause => "Cache error: " ++ cause.message
  | serialization detail => "Serialization error: " ++ detail
  | disk cause => "I/O error: " ++ cause.message
  | internal message => "Internal error: " ++ message

/-- Whether an error arose because an instance could not be made. -/
def isConfig : LoaderError → Bool
  | config _ => true
  | _ => false

end LoaderError

end ScriptLoader
