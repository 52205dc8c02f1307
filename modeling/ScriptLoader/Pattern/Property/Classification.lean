import ScriptLoader.Pattern.CharSet

/-!
# Properties with values

A property that gives each code point one of several values is kept as the runs of code
points with equal value. They are written from 0 up: the length of a run in base 36, then
the mark of the value, which is a capital letter and one more character.
-/

namespace ScriptLoader.Pattern.Property

/-- Code points in a row with the same value. -/
structure Run where
  interval : Interval
  mark : String

/-- The runs written in a text, of which the first begins at `first`; `length` is what is
read of its length. -/
def Run.readFrom (first length : Nat) : List Char → List Run
  | c :: rest =>
    if c.isUpper then
      match rest with
      | [] => []
      | d :: rest =>
        ⟨⟨first, first + length - 1⟩, String.ofList [c, d]⟩ ::
          Run.readFrom (first + length) 0 rest
    else Run.readFrom first (length * 36 + CodePointSet.digitValue c) rest
  | [] => []

/-- The runs written in a text, in which blanks and line ends do not count. -/
def Run.readAll (text : String) : List Run :=
  Run.readFrom 0 0 (text.toList.filter fun c => c ≠ ' ' && c ≠ '\n')

/-- A property with values. -/
structure Classification where
  runs : List Run
  /-- Names in lower case and without separators, with the marks that they stand for. -/
  names : List (List String × List String)

namespace Classification

/-- The characters whose value has one of the given marks. -/
def withMarks (property : Classification) (marks : List String) : CharSet :=
  ⟨Interval.joined (property.runs.filterMap fun run =>
    if marks.contains run.mark then some run.interval else none)⟩

/-- The characters that a name stands for. -/
def named? (property : Classification) (name : String) : Option CharSet :=
  (property.names.find? (·.1.contains name)).map fun (_, marks) => property.withMarks marks

end Classification

end ScriptLoader.Pattern.Property
