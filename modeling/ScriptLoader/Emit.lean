import ScriptLoader.Compiler.Service
import ScriptLoader.Diagnostic.Record
import ScriptLoader.SourceMap

/-!
# Compiling a file

One request of the build tool: the content is put into the file store, the compiler is
called, and what it emits is turned into a result with everything that the build tool needs
to know when the output is out of date.
-/

namespace ScriptLoader

/-- A request to compile a file. -/
structure EmitRequest where
  resource : RawPath
  content : String
  /-- What a source map names as its source. -/
  remaining : String
  /-- The build tool's name for the module. -/
  module : String
  deriving DecidableEq, Repr

/-- The request for a resource that names it wherever a name is needed. -/
def EmitRequest.plain (resource : RawPath) (content : String) : EmitRequest :=
  ⟨resource, content, resource.spelled?.getD "", resource.shown⟩

/-- What a request gives back. -/
structure EmitResult where
  /-- The path under which the file was compiled. -/
  path : String
  output : String
  sourceMap : Option SourceMap
  /-- The files that the build tool has to watch. -/
  dependencies : List String
  /-- The version of the file with the content of the request. -/
  fileVersion : Nat
  /-- For every dependency but the file itself, its path and its version. -/
  definitionVersions : List String
  errors : List ErrorRecord

/-- What is known once the compiler is done. -/
structure Emitted where
  output : Option String
  sourceMap : Option String
  dependencies : List String
  definitionVersions : List String
  errors : List ErrorRecord

/-- How the compiler was called. -/
inductive CompilerCall where
  /-- To emit a file, with what it asked its host. -/
  | emit (path : String) (answers : List (HostCall × HostAnswer))
  | transpile (request : TranspileRequest)

/-- The outcome of a request: the state that it leaves, its result or why there is none, how
the compiler was called, and the events on the way. -/
structure EmitOutcome where
  state : InstanceState
  result : Except LoaderError EmitResult
  call : CompilerCall
  events : List Event

namespace InstanceState

/-- The files that the output of a file depends on: itself, all declaration files, and what
is recorded for it. -/
def dependenciesOf (state : InstanceState) (path : String) : List String :=
  (path :: (state.files.declarationFiles.map (·.1) ++
    state.graph.dependenciesOf path)).eraseDups

/-- A path with the version of the file, or with a question mark if it is not tracked. -/
def definitionVersion (state : InstanceState) (path : String) : String :=
  match state.files.versionOf? path with
  | some version => s!"{path}@{version}"
  | none => path ++ "@?"

end InstanceState

namespace ProgramOutput

/-- The text of the last file whose name satisfies a condition. -/
def lastText? (output : ProgramOutput) (isWanted : String → Bool) : Option String :=
  (output.files.filter fun file => isWanted file.name).getLast?.map (·.text)

end ProgramOutput

namespace EmitRequest

/-- What a compiler's output for a file of a program amounts to, in the state it leaves. -/
def ofProgram (directory : String) (options : LoaderOptions) (state : InstanceState)
    (path : String) (request : EmitRequest) (output : ProgramOutput) : Emitted :=
  let dependencies := state.dependenciesOf path
  { output := output.lastText? Path.isScript
    sourceMap := output.lastText? Path.isScriptMap
    dependencies
    definitionVersions := dependencies.tail.map state.definitionVersion
    errors := Diagnostic.records directory options request.module output.diagnostics }

/-- What a compiler's output for a file on its own amounts to. -/
def ofTranspiled (directory : String) (options : LoaderOptions) (path : String)
    (request : EmitRequest) (output : TranspileOutput) : Emitted :=
  { output := output.output
    sourceMap := output.sourceMap
    dependencies := [path]
    definitionVersions := []
    errors := Diagnostic.records directory options request.module output.diagnostics }

/-- The request to transform the file on its own. -/
def transpileRequest (options : LoaderOptions) (path : String) (request : EmitRequest) :
    TranspileRequest :=
  ⟨request.content, options.compilerOptions, (Path.baseName? path).getD path, true⟩

/-- The result of a request after the compiler is done. -/
def finish (request : EmitRequest) (path : String) (fileVersion : Nat) (emitted : Emitted) :
    Except LoaderError EmitResult :=
  match emitted.output with
  | none => .error (.noOutput path)
  | some text =>
    match SourceMap.make emitted.sourceMap text path request.content request.remaining with
    | .error cause => .error cause
    | .ok (output, sourceMap) =>
      .ok
        { path
          output
          sourceMap
          dependencies := emitted.dependencies
          fileVersion
          definitionVersions := emitted.definitionVersions
          errors := emitted.errors }

/-- The path under which the file of a request is compiled. -/
def path (workspace : Workspace) (options : LoaderOptions) (request : EmitRequest) : String :=
  options.compilePath (request.resource.normalize workspace.directory)

/-- The event of a result. -/
def resultEvents : Except LoaderError EmitResult → List Event
  | .ok result =>
    let count := result.dependencies.length
    [.debug s!"Emitted {result.path} at version {result.fileVersion} with {count} dependencies"]
  | .error _ => []

/-- Compiles a file of an instance. -/
def emit (workspace : Workspace) (options : LoaderOptions) (compiler : Compiler)
    (state : InstanceState) (request : EmitRequest) : EmitOutcome :=
  let path := request.path workspace options
  let version := state.files.updatedVersion path request.content
  let update := FileStore.Op.update path request.content
  let supplied : InstanceState := { state with files := state.files.update path request.content }
  if options.transpileOnly then
    let call := request.transpileRequest options path
    let result := do
      request.finish path version
        (request.ofTranspiled workspace.directory options path (← compiler.transpile call))
    ⟨supplied, result, .transpile call, state.files.events update ++ resultEvents result⟩
  else
    let run := (compiler.emit path).run workspace options supplied
    let result := do
      request.finish path version
        (request.ofProgram workspace.directory options run.state path (← run.result))
    ⟨run.state, result, .emit path run.answers,
      state.files.events update ++ run.events ++ resultEvents result⟩

end EmitRequest

end ScriptLoader
