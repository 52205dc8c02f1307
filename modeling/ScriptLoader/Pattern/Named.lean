import ScriptLoader.Pattern.Property.Age
import ScriptLoader.Pattern.Property.Binary
import ScriptLoader.Pattern.Property.Break
import ScriptLoader.Pattern.Property.GeneralCategory
import ScriptLoader.Pattern.Property.Script

/-!
# Sets of characters by name

The sets that a pattern may name: those of ASCII, those of words, digits and blanks, and
those of a property or of one of its values.
-/

namespace ScriptLoader.Pattern.CharSet

/-- The set of a binary property. -/
def ofBinary (property : Property.Binary) : CharSet :=
  (Property.generalCategory.withMarks property.categories).symmDiff
    (.ofTable property.exceptions)

/-- The set of a binary property by its name. -/
def binaryNamed? (name : String) : Option CharSet :=
  (Property.binaryNamed? name).map ofBinary

/-- The decimal digits of every script. -/
def digits : CharSet := Property.generalCategory.withMarks ["Nd"]

/-- The blank characters. -/
def blanks : CharSet := (binaryNamed? "whitespace").getD empty

/-- The characters of words: letters, marks, decimal digits, connectors and joiners. -/
def words : CharSet :=
  unionOf [(binaryNamed? "alphabetic").getD empty,
    Property.generalCategory.withMarks ["Mn", "Mc", "Me", "Nd", "Pc"],
    (binaryNamed? "joincontrol").getD empty]

/-- The decimal digits of ASCII. -/
def asciiDigits : CharSet := ⟨[⟨0x30, 0x39⟩]⟩

/-- The blank characters of ASCII. -/
def asciiBlanks : CharSet := ⟨[⟨0x9, 0xD⟩, ⟨0x20, 0x20⟩]⟩

/-- The characters of ASCII words. -/
def asciiWords : CharSet := ⟨[⟨0x30, 0x39⟩, ⟨0x41, 0x5A⟩, ⟨0x5F, 0x5F⟩, ⟨0x61, 0x7A⟩]⟩

/-- The ASCII sets that have a name. -/
def asciiNamed? (name : String) : Option CharSet :=
  match name with
  | "alnum" => some ⟨[⟨0x30, 0x39⟩, ⟨0x41, 0x5A⟩, ⟨0x61, 0x7A⟩]⟩
  | "alpha" => some ⟨[⟨0x41, 0x5A⟩, ⟨0x61, 0x7A⟩]⟩
  | "ascii" => some ⟨[⟨0, 0x7F⟩]⟩
  | "blank" => some ⟨[⟨0x9, 0x9⟩, ⟨0x20, 0x20⟩]⟩
  | "cntrl" => some ⟨[⟨0, 0x1F⟩, ⟨0x7F, 0x7F⟩]⟩
  | "digit" => some asciiDigits
  | "graph" => some ⟨[⟨0x21, 0x7E⟩]⟩
  | "lower" => some ⟨[⟨0x61, 0x7A⟩]⟩
  | "print" => some ⟨[⟨0x20, 0x7E⟩]⟩
  | "punct" => some ⟨[⟨0x21, 0x2F⟩, ⟨0x3A, 0x40⟩, ⟨0x5B, 0x60⟩, ⟨0x7B, 0x7E⟩]⟩
  | "space" => some asciiBlanks
  | "upper" => some ⟨[⟨0x41, 0x5A⟩]⟩
  | "word" => some asciiWords
  | "xdigit" => some ⟨[⟨0x30, 0x39⟩, ⟨0x41, 0x46⟩, ⟨0x61, 0x66⟩]⟩
  | _ => none

/-- A property name without case, separators and a leading `is`; what is not ASCII does not
count. A name of which only `c` is left keeps its `is`. -/
def looseName (name : List Char) : String :=
  let (is, rest) :=
    match name with
    | c :: d :: rest =>
      if (c = 'i' || c = 'I') && (d = 's' || d = 'S') then (true, rest) else (false, name)
    | _ => (false, name)
  let kept := (rest.filter fun c =>
    c.toNat < 0x80 && c ≠ ' ' && c ≠ '_' && c ≠ '-').map Char.toLower
  if is && kept = ['c'] then "isc" else String.ofList kept

/-- The set of a general category, a group of them, or one of three names that stand for
all, all assigned and all ASCII characters. -/
def categoryNamed? (name : String) : Option CharSet :=
  match name with
  | "any" => some all
  | "assigned" => some (Property.generalCategory.withMarks ["Cn"]).compl
  | "ascii" => some ⟨[⟨0, 0x7F⟩]⟩
  | name => Property.generalCategory.named? name

/-- The characters of a script. -/
def scriptNamed? (name : String) : Option CharSet :=
  (Property.scriptNamed? name).map fun script => .ofTable script.members

/-- The characters that a script is used with. -/
def scriptUseNamed? (name : String) : Option CharSet :=
  (Property.scriptNamed? name).map fun script =>
    (ofTable script.members).symmDiff (.ofTable script.exceptions)

/-- The set that a property name stands for: a binary property, a general category or a
script. -/
def named? (name : List Char) : Option CharSet :=
  let name := looseName name
  ((binaryNamed? name).or (categoryNamed? name)).or (scriptNamed? name)

/-- The set that a property and one of its values stand for. -/
def valued? (property value : List Char) : Option CharSet :=
  let value := looseName value
  match looseName property with
  | "gc" | "generalcategory" => categoryNamed? value
  | "sc" | "script" => scriptNamed? value
  | "scx" | "scriptextensions" => scriptUseNamed? value
  | "age" => Property.age.named? value
  | "gcb" | "graphemeclusterbreak" => Property.graphemeBreak.named? value
  | "wb" | "wordbreak" => Property.wordBreak.named? value
  | "sb" | "sentencebreak" => Property.sentenceBreak.named? value
  | _ => none

end ScriptLoader.Pattern.CharSet
