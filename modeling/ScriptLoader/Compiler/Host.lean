import ScriptLoader.FileStore.Basic
import ScriptLoader.Graph.Basic
import ScriptLoader.Options.Basic
import ScriptLoader.Workspace

/-!
# The host of a compiler

A compiler sees files through its host only. What it does during one emit is a tree: it
either is done, or asks the host something and goes on depending on the answer. So every
finite behaviour of a compiler is a value, and running it needs no more than the state of an
instance and the disk.
-/

namespace ScriptLoader

/-- The files and dependencies of an instance. -/
structure InstanceState where
  files : FileStore
  graph : DependencyGraph

namespace InstanceState

/-- The state in which nothing is known. -/
def empty : InstanceState :=
  ⟨∅, ∅⟩

instance : EmptyCollection InstanceState := ⟨empty⟩

end InstanceState

/-- What a compiler asks its host, or tells it. -/
inductive HostCall where
  /-- The key of the instance. -/
  | instanceKey
  /-- The version of a file. -/
  | scriptVersion (path : String)
  /-- The content of a file. -/
  | read (path : String)
  | fileExists (path : String)
  /-- The files that the imports of a file mean, in the place of those told before. -/
  | setResolvedModules (file : String) (resolved : List String)
  /-- One more file that a file depends on. -/
  | recordDependency (file dependency : String)
  /-- The declaration files that are tracked. -/
  | declarationFiles

/-- What a host answers. -/
inductive HostAnswer where
  | key (key : String)
  | version (version : Option Nat)
  | content (content : Option String)
  | truth (holds : Bool)
  | done
  | files (files : List (String × Nat))
  deriving DecidableEq, Repr

/-- What a compiler does with its host until it has a result. -/
inductive HostProgram (α : Type) where
  | done (result : α)
  | call (call : HostCall) (next : HostAnswer → HostProgram α)

/-- The tracked declaration files and their versions, in the order of their paths. -/
def FileStore.declarationFiles (store : FileStore) : List (String × Nat) :=
  (store.all.filter fun record => Path.isDeclaration record.path).map fun record =>
    (record.path, record.version)

/-- The state after a host was asked, its answer, and what it reports. -/
structure HostStep where
  state : InstanceState
  answer : HostAnswer
  events : List Event

namespace InstanceState

/-- Reads a file. What is tracked with its content comes first; otherwise the file is read
from disk and tracked. -/
def read (workspace : Workspace) (state : InstanceState) (path : String) : HostStep :=
  let path := workspace.normalize path
  match state.files.contentOf? path with
  | some content => ⟨state, .content (some content), []⟩
  | none =>
    match state.files.track workspace.disk path with
    | .ok (files, record) =>
      ⟨{ state with files }, .content record.content,
        state.files.events (.track workspace.disk path)⟩
    | .error cause =>
      ⟨state, .content none, [.debug s!"Cannot read {path}: {cause.message}"]⟩

/-- Answers a call of the compiler. Paths are brought into normal form first. -/
def answer (workspace : Workspace) (options : LoaderOptions) (state : InstanceState) :
    HostCall → HostStep
  | .instanceKey => ⟨state, .key options.key, []⟩
  | .scriptVersion path =>
    ⟨state, .version (state.files.versionOf? (workspace.normalize path)), []⟩
  | .read path => state.read workspace path
  | .fileExists path =>
    let path := workspace.normalize path
    ⟨state, .truth (state.files.contains path || workspace.disk.isFile path), []⟩
  | .setResolvedModules file resolved =>
    let file := workspace.normalize file
    ⟨{ state with graph := state.graph.setDependencies file (resolved.map workspace.normalize) },
      .done, [.debug s!"{file} resolves {resolved.length} modules"]⟩
  | .recordDependency file dependency =>
    ⟨{ state with
        graph := state.graph.addDependency (workspace.normalize file)
          (workspace.normalize dependency) },
      .done, []⟩
  | .declarationFiles => ⟨state, .files state.files.declarationFiles, []⟩

end InstanceState

/-- The state after a program has run, its result, the calls it made with their answers, and
what its host reported. -/
structure HostRun (α : Type) where
  state : InstanceState
  result : α
  answers : List (HostCall × HostAnswer)
  events : List Event

/-- Runs a program. -/
def HostProgram.run {α : Type} (workspace : Workspace) (options : LoaderOptions) :
    HostProgram α → InstanceState → HostRun α
  | .done result, state => ⟨state, result, [], []⟩
  | .call asked next, state =>
    let step := state.answer workspace options asked
    let rest := (next step.answer).run workspace options step.state
    ⟨rest.state, rest.result, (asked, step.answer) :: rest.answers, step.events ++ rest.events⟩

end ScriptLoader
