import Std.Data.ExtTreeMap
import ScriptLoader.Number.Basic

/-!
# JSON values

Options, compiler settings and source maps are JSON values. The members of an object are a
list here, in the order in which they are written; `Json.Members` is the same object as a
finite map, which orders its keys by code point and holds each key once.
-/

namespace ScriptLoader

/-- A JSON value. -/
inductive Json where
  | null
  | bool (value : Bool)
  | number (value : Number)
  | string (value : String)
  | array (items : List Json)
  | object (members : List (String × Json))

instance : Inhabited Json := ⟨.null⟩

namespace Json

/-- The members of an object by key. -/
abbrev Members := Std.ExtTreeMap String Json compare

/-- The object with these members, in key order. -/
def ofMembers (members : Members) : Json :=
  .object members.toList

/-- The members of a written object; of members with one key the last one counts. -/
def membersOf (written : List (String × Json)) : Members :=
  .ofList written compare

/-- A whole number from 0 up. -/
def ofNat (value : Nat) : Json :=
  .number (.natural value)

/-- An array of texts. -/
def ofTexts (texts : List String) : Json :=
  .array (texts.map .string)

mutual

/-- The value with the members of every object in key order, the last one of each key. -/
def canonical : Json → Json
  | array items => .array (canonicalItems items)
  | object members => ofMembers (membersOf (canonicalMembers members))
  | leaf => leaf

/-- The items in canonical form. -/
def canonicalItems : List Json → List Json
  | [] => []
  | item :: rest => canonical item :: canonicalItems rest

/-- The members with canonical values. -/
def canonicalMembers : List (String × Json) → List (String × Json)
  | [] => []
  | (key, value) :: rest => (key, canonical value) :: canonicalMembers rest

end

/-- A number of at most 32 bits. -/
def word? : Json → Option Nat
  | number (.natural value) => if value < 0x100000000 then some value else none
  | _ => none

/-- A text. -/
def text? : Json → Option String
  | string text => some text
  | _ => none

/-- A value that may be left out, or be `null`. -/
def optional? {α : Type} (read? : Json → Option α) : Option Json → Option (Option α)
  | none => some none
  | some null => some none
  | some value => (read? value).map some

/-- The kind of a value, as messages name it. -/
def kind : Json → String
  | null => "null"
  | bool _ => "boolean"
  | number _ => "number"
  | string _ => "string"
  | array _ => "array"
  | object _ => "object"

end Json

end ScriptLoader
