import ScriptLoader.Error
import ScriptLoader.Json.Strict

/-!
# Source maps

A source map of version 3 as a JSON object with some known fields, the others being kept as
they are. After a compilation three fields are replaced, and the comment that names the map
is dropped from the output, so that the build tool can attach the map itself.

The text of a map is read as strict JSON (`Json.Strict`). The private key for raw values that a
reader may know beyond that is left out: an object with this key, which only the values of other
fields can hold, is kept as an object.
-/

namespace ScriptLoader

/-- A source map. -/
structure SourceMap where
  version : Nat
  file : Option String
  sourceRoot : Option String
  sources : List String
  sourcesContent : List String
  names : List String
  mappings : String
  /-- All other fields. -/
  extra : Json.Members

namespace SourceMap

/-- The names of the known fields. -/
def knownFields : List String :=
  ["version", "file", "sourceRoot", "sources", "sourcesContent", "names", "mappings"]

/-- A list of texts. -/
def texts? : Json → Option (List String)
  | .array items => items.mapM Json.text?
  | _ => none

/-- Reads a field that may be left out. -/
def field? {α : Type} (members : List (String × Json)) (name : String) (default : α)
    (read? : Json → Option α) : Option α :=
  match members.lookup name with
  | none => some default
  | some value => read? value

/-- The source map that a JSON object writes. A known field may be written once, and has to
be of its kind; only the version is required. -/
def ofMembers? (members : List (String × Json)) : Option SourceMap := do
  let known := (members.map (·.1)).filter knownFields.contains
  if known.eraseDups.length = known.length then
    let version ← members.lookup "version"
    return {
      version := ← version.word?
      file := ← Json.optional? Json.text? (members.lookup "file")
      sourceRoot := ← Json.optional? Json.text? (members.lookup "sourceRoot")
      sources := ← field? members "sources" [] texts?
      sourcesContent := ← field? members "sourcesContent" [] texts?
      names := ← field? members "names" [] texts?
      mappings := ← field? members "mappings" "" Json.text?
      extra := Json.membersOf (Json.canonicalMembers
        (members.filter fun (name, _) => !knownFields.contains name)) }
  else none

/-- The source map that a JSON value writes. -/
def ofJson? : Json → Option SourceMap
  | .object members => ofMembers? members
  | _ => none

/-- The levels of nesting that the text of a source map may have. -/
def greatestDepth : Nat := 127

/-- The source map that a text writes. -/
def ofText (text : String) : Except LoaderError SourceMap :=
  match (Json.Strict.parse? greatestDepth text).bind ofJson? with
  | some map => .ok map
  | none => .error (.serialization "not a source map")

/-- The known fields of a source map, those left out that are none. -/
def fields (map : SourceMap) : List (String × Json) :=
  [("version", .ofNat map.version)] ++
    (map.file.map fun file => ("file", Json.string file)).toList ++
    (map.sourceRoot.map fun root => ("sourceRoot", Json.string root)).toList ++
    [("sources", .ofTexts map.sources), ("sourcesContent", .ofTexts map.sourcesContent),
      ("names", .ofTexts map.names), ("mappings", .string map.mappings)]

/-- The source map as a JSON object. -/
def toJson (map : SourceMap) : Json :=
  .ofMembers (map.extra.insertMany map.fields)

/-- The source map of a compilation: what was compiled, under which path, and with what
content. -/
def attach (map : SourceMap) (request path content : String) : SourceMap :=
  { map with sources := [request], file := some path, sourcesContent := [content] }

/-- What the comment that names a source map starts with. -/
def commentMark : List Char := "//# sourceMappingURL=".toList

/-- The text from the end of a comment on: a comment runs up to a carriage return or the end of
its line. -/
def afterComment (text : List Char) : List Char :=
  text.dropWhile fun c => c ≠ '\r' && c ≠ '\n'

/-- A text without its comments that name source maps, looked for from left to right. A comment
starts where a line does; `opens` says whether the text starts there. -/
def dropComments (opens : Bool) : List Char → List Char
  | [] => []
  | c :: rest =>
    if opens && commentMark.isPrefixOf (c :: rest) then dropComments false (afterComment rest)
    else c :: dropComments (c = '\n') rest
termination_by text => text.length
decreasing_by
  · exact Nat.lt_succ_of_le (List.dropWhile_sublist _).length_le
  · exact Nat.lt_succ_self _

/-- A text without the comments that name source maps. -/
def strip (text : String) : String :=
  String.ofList (dropComments true text.toList)

/-- The output of a compilation, and its source map if the compiler gave one. Without a
source map, or with an empty one, the output stays as it is. -/
def make (mapText : Option String) (output path content request : String) :
    Except LoaderError (String × Option SourceMap) :=
  match mapText.filter (· ≠ "") with
  | none => .ok (output, none)
  | some text => do
    let map ← ofText text
    return (strip output, some (map.attach request path content))

end SourceMap

end ScriptLoader
