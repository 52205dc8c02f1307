import ScriptLoader.Path.Normalize
import ScriptLoader.Text.Utf8

/-!
# Paths as an operating system gives them

A path is a list of bytes, which need not spell a text. Its normal form is that of the text
that shows it.
-/

namespace ScriptLoader

/-- A path of the operating system. -/
structure RawPath where
  bytes : List UInt8
  deriving DecidableEq, Repr

namespace RawPath

/-- The path that a text spells. -/
def ofString (text : String) : RawPath :=
  ⟨Utf8.encode text⟩

/-- The text that shows a path. -/
def shown (path : RawPath) : String :=
  Utf8.decodeLossy path.bytes

/-- The text of a path, if it has one. -/
def spelled? (path : RawPath) : Option String :=
  Utf8.decode? path.bytes

/-- The normal form of a path. -/
def normalize (directory : String) (path : RawPath) : String :=
  Path.normalize directory path.shown

end RawPath

end ScriptLoader
