import ScriptLoader.Diagnostic.Basic
import ScriptLoader.Options.Basic
import ScriptLoader.Path.Normalize

/-!
# Error records

Diagnostics in the form in which a build tool collects them. A diagnostic with a file and a
start has a location, and its message shows the location in one of three formats.
-/

namespace ScriptLoader

/-- A line and a character in it, both counted from 1. -/
structure Location where
  line : Nat
  character : Nat
  deriving DecidableEq, Repr

/-- A diagnostic for the build tool. -/
structure ErrorRecord where
  /-- The text to show, with the location. -/
  message : String
  /-- The text without the location. -/
  rawMessage : String
  location : Option Location
  /-- The file in normal form. -/
  file : Option String
  /-- The build tool's name for the module that was compiled. -/
  module : String
  deriving DecidableEq, Repr

/-- The mark of every record. -/
def ErrorRecord.source : String := "ts-loader"

namespace Diagnostic

/-- The text of a diagnostic without its location. -/
def rawMessage (diagnostic : Diagnostic) : String :=
  s!"{diagnostic.category.name} TS{diagnostic.code}: {diagnostic.message}"

/-- The location after a position. -/
def locationOf (start : Position) : Location :=
  ⟨start.line + 1, start.character + 1⟩

/-- The location of a diagnostic, if it has a file and a start. -/
def location? (diagnostic : Diagnostic) : Option Location :=
  if diagnostic.file.isSome then diagnostic.start.map locationOf else none

/-- A text with a location in front or after it. -/
def located (format : ErrorFormat) (file text : String) (location : Location) : String :=
  match format with
  | .default => s!"({location.line},{location.character}): {text}"
  | .visualStudio => s!"{file}({location.line},{location.character}): {text}"
  | .webStorm => s!"{text}\nat {file}:{location.line}:{location.character}"

/-- The record of a diagnostic. -/
def record (directory : String) (format : ErrorFormat) (module : String)
    (diagnostic : Diagnostic) : ErrorRecord :=
  let file := diagnostic.file.map (Path.normalize directory)
  { message :=
      match file, diagnostic.start with
      | some file, some start =>
        located format file diagnostic.rawMessage (locationOf start)
      | _, _ => diagnostic.rawMessage
    rawMessage := diagnostic.rawMessage
    location := diagnostic.location?
    file
    module }

/-- The records of the diagnostics that are reported. -/
def records (directory : String) (options : LoaderOptions) (module : String)
    (diagnostics : List Diagnostic) : List ErrorRecord :=
  (diagnostics.filter fun diagnostic => !options.isIgnored diagnostic.code).map
    (record directory options.errorFormat module)

end Diagnostic

namespace ErrorRecord

/-- Adds new records to those collected before; the newest come first. -/
def register (collected new : List ErrorRecord) : List ErrorRecord :=
  new ++ collected

/-- The record as a JSON object. -/
def toJson (record : ErrorRecord) : Json :=
  .object ((record.file.map fun file => ("file", Json.string file)).toList ++
    [("loaderSource", .string source)] ++
    (record.location.map fun location => ("location", Json.object
      [("character", .ofNat location.character), ("line", .ofNat location.line)])).toList ++
    [("message", .string record.message), ("module", .string record.module),
      ("rawMessage", .string record.rawMessage)])

end ErrorRecord

end ScriptLoader
