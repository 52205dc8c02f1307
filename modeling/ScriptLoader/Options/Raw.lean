import ScriptLoader.Digest
import ScriptLoader.Error
import ScriptLoader.Json.Lenient
import ScriptLoader.Text.Utf8

/-!
# Written options

Options before they are checked: an object of any values. A request has two of them, one
from the project's configuration and one of its own, which comes first wherever both have a
say. `OptionSources.fingerprint` tells such pairs apart.
-/

namespace ScriptLoader

/-- An object of options that are not checked yet. -/
structure RawOptions where
  members : Json.Members

namespace RawOptions

/-- No options. -/
def empty : RawOptions :=
  ⟨∅⟩

instance : EmptyCollection RawOptions := ⟨empty⟩

/-- The options that a JSON value writes; `null` writes none. -/
def ofJson : Json → Except ConfigError RawOptions
  | .object members => .ok ⟨Json.membersOf members⟩
  | .null => .ok ∅
  | other => .error (.notAnObject other.kind)

/-- The options that a text in lenient notation writes. -/
def ofText (text : String) : Except ConfigError RawOptions :=
  match Json.Lenient.parse? text with
  | none => .error (.unreadable "not a JSON value")
  | some value => ofJson value

/-- Sets an option. -/
def set (options : RawOptions) (key : String) (value : Json) : RawOptions :=
  ⟨options.members.insert key value⟩

/-- The value of an option. -/
def get? (options : RawOptions) (key : String) : Option Json :=
  options.members[key]?

/-- The options in the order of their keys. -/
def entries (options : RawOptions) : List (String × Json) :=
  options.members.toList

/-- The options as a JSON object. -/
def toJson (options : RawOptions) : Json :=
  .ofMembers options.members

/-- The label that the option `instance` gives: a text that is not empty, or a number other
than zero in its decimal form. -/
def label? (options : RawOptions) : Option String :=
  match options.get? "instance" with
  | some (.string label) => if label = "" then none else some label
  | some (.number number) => if number.isZero then none else some number.text
  | _ => none

end RawOptions

/-- The options of a project and of a request. -/
structure OptionSources where
  configFile : RawOptions
  query : RawOptions

namespace OptionSources

instance : EmptyCollection OptionSources := ⟨⟨∅, ∅⟩⟩

/-- The label of an instance for which no label is given. -/
def defaultLabel : String := "default"

/-- The label of the instance that a request means. -/
def label (sources : OptionSources) : String :=
  (sources.query.label?.or sources.configFile.label?).getD defaultLabel

/-- The value of an option that counts: that of the request if it has one. -/
def effective? (sources : OptionSources) (key : String) : Option Json :=
  (sources.query.get? key).or (sources.configFile.get? key)

/-- Both sources as one object. -/
def merged (sources : OptionSources) : Json.Members :=
  sources.configFile.members.insertMany sources.query.entries

/-- Both sources as JSON. -/
def toJson (sources : OptionSources) : Json :=
  .object [("config_file", sources.configFile.toJson), ("query", sources.query.toJson)]

/-- The digest of both sources. -/
def fingerprint (sources : OptionSources) : String :=
  Digest.blake3 (Utf8.encode sources.toJson.compact)

end OptionSources

end ScriptLoader
