import ScriptLoader.Compiler.Host
import ScriptLoader.Diagnostic.Basic
import ScriptLoader.Error

/-!
# Compilers

What is asked of a compiler, and what it gives back. A compiler either emits a file as part
of the whole program, with a host, or transforms the content of a file on its own.
-/

namespace ScriptLoader

/-- A file that a compiler emits. -/
structure OutputFile where
  name : String
  text : String
  deriving DecidableEq, Repr

/-- What a compiler emits for a file of a program. -/
structure ProgramOutput where
  files : List OutputFile
  diagnostics : List Diagnostic
  deriving DecidableEq, Repr

/-- A request to transform a file on its own. -/
structure TranspileRequest where
  content : String
  compilerOptions : Json.Members
  /-- The name of the file without its directory. -/
  fileName : String
  reportDiagnostics : Bool

/-- What a compiler makes of a file on its own. -/
structure TranspileOutput where
  output : Option String
  sourceMap : Option String
  diagnostics : List Diagnostic
  deriving DecidableEq, Repr

/-- What a compiler does with the next request. -/
structure Compiler where
  /-- Emits the file at a path. -/
  emit : String → HostProgram (Except LoaderError ProgramOutput)
  /-- Transforms a file on its own. -/
  transpile : TranspileRequest → Except LoaderError TranspileOutput

/-- Makes the compiler of a new instance, or says why there is none. -/
abbrev CompilerFactory := LoaderOptions → Except LoaderError Unit

end ScriptLoader
