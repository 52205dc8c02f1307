/-!
# Kinds of files

What a file is, as far as it matters here, is read off the end of its name.
-/

namespace ScriptLoader.Path

/-- Whether a text ends in one of the given ones. -/
def endsInOneOf (endings : List String) (name : String) : Bool :=
  endings.any fun ending => ending.toList.isSuffixOf name.toList

/-- A declaration file. -/
def isDeclaration (name : String) : Bool :=
  endsInOneOf [".d.ts", ".d.tsx"] name

/-- An emitted script. -/
def isScript (name : String) : Bool :=
  endsInOneOf [".js", ".jsx"] name

/-- An emitted source map. -/
def isScriptMap (name : String) : Bool :=
  endsInOneOf [".js.map", ".jsx.map"] name

/-- A source that a watch pass looks at. -/
def isWatched (name : String) : Bool :=
  endsInOneOf [".ts", ".tsx", ".js", ".jsx"] name

/-- The directory of third-party packages. -/
def vendorDirectory : String := "node_modules"

/-- Whether `part` occurs in a list. -/
def occursIn (part : List Char) : List Char → Bool
  | [] => part.isEmpty
  | c :: rest => part.isPrefixOf (c :: rest) || occursIn part rest

/-- Whether a path lies in a third-party package. -/
def isVendored (path : String) : Bool :=
  occursIn vendorDirectory.toList path.toList

end ScriptLoader.Path
