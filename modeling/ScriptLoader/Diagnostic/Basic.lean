import ScriptLoader.Json.Basic

/-!
# Diagnostics

What a compiler reports about a program, and its form as a JSON value. A report may be
written as an object, or as an array of all its fields in order.
-/

namespace ScriptLoader

/-- How grave a diagnostic is. -/
inductive Category where
  | warning
  | error
  | suggestion
  | message
  deriving DecidableEq, Repr, Inhabited

namespace Category

/-- All categories. -/
def all : List Category := [warning, error, suggestion, message]

/-- The name of a category. -/
def name : Category → String
  | warning => "warning"
  | error => "error"
  | suggestion => "suggestion"
  | message => "message"

/-- The category of diagnostics that do not say one. -/
def usual : Category := error

/-- The category with a name. -/
def ofName? (name : String) : Option Category :=
  all.find? (·.name = name)

/-- The category that a JSON value names: a text, or an object with that text as its only
key and `null` as its value. -/
def ofJson? : Json → Option Category
  | .string text => ofName? text
  | .object [(text, .null)] => ofName? text
  | _ => none

end Category

/-- A line and a character in it, both counted from 0. -/
structure Position where
  line : Nat
  character : Nat
  deriving DecidableEq, Repr

/-- A report of a compiler. -/
structure Diagnostic where
  code : Nat
  category : Category
  message : String
  /-- The file that the report is about. -/
  file : Option String
  /-- Where in the file the cause begins. -/
  start : Option Position
  deriving DecidableEq, Repr

namespace Position

/-- The position that a JSON value writes. -/
def ofJson? : Json → Option Position
  | .array [line, character] => do return ⟨← line.word?, ← character.word?⟩
  | .object members => do
    return ⟨← (← members.lookup "line").word?, ← (← members.lookup "character").word?⟩
  | _ => none

/-- The position as a JSON object. -/
def toJson (position : Position) : Json :=
  .object [("character", .ofNat position.character), ("line", .ofNat position.line)]

end Position

namespace Diagnostic

/-- The diagnostic that JSON values write, field by field. -/
def ofFields? (code message : Json) (category file start : Option Json) :
    Option Diagnostic := do
  return {
    code := ← code.word?
    category := ← (match category with
      | none => some Category.usual
      | some category => Category.ofJson? category)
    message := ← message.text?
    file := ← Json.optional? Json.text? file
    start := ← Json.optional? Position.ofJson? start }

/-- The diagnostic that a JSON value writes. -/
def ofJson? : Json → Option Diagnostic
  | .array [code, category, message, file, start] =>
    ofFields? code message (some category) (some file) (some start)
  | .object members => do
    ofFields? (← members.lookup "code") (← members.lookup "message")
      (members.lookup "category") (members.lookup "file") (members.lookup "start")
  | _ => none

/-- The diagnostic as a JSON object. -/
def toJson (diagnostic : Diagnostic) : Json :=
  .object ([("category", .string diagnostic.category.name), ("code", .ofNat diagnostic.code)] ++
    (diagnostic.file.map fun file => ("file", Json.string file)).toList ++
    [("message", .string diagnostic.message)] ++
    (diagnostic.start.map fun start => ("start", start.toJson)).toList)

end Diagnostic

end ScriptLoader
