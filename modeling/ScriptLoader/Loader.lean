import ScriptLoader.Emit
import ScriptLoader.Registry
import ScriptLoader.Watch

/-!
# The loader

What a build tool calls: compile a file, for which the instance is found or made first, run
a watch pass over all instances, and take the paths that were modified.

`Loader.run` is the loader after a history, a list of calls each of which comes with the disk
and the compiler of its moment.
-/

namespace ScriptLoader

/-- All that is known between two calls of the build tool. -/
structure Loader where
  registry : Registry

/-- The loader after a request to compile a file, its result or why there is none, whether a
compiler was asked for, how the compiler was called, and the events on the way. -/
structure CompileOutcome where
  loader : Loader
  result : Except LoaderError EmitResult
  asked : Bool
  call : Option CompilerCall
  events : List Event

/-- The loader after a watch pass, the reports by instance, and the events on the way. -/
structure WatchRun where
  loader : Loader
  reports : List (String × WatchReport)
  events : List Event

namespace Loader

/-- The loader that nothing has been asked of. -/
def empty : Loader :=
  ⟨∅⟩

instance : EmptyCollection Loader := ⟨empty⟩

/-- Compiles a file in the instance that a session means. -/
def compile (workspace : Workspace) (factory : CompilerFactory) (compiler : Compiler)
    (loader : Loader) (session : BuildSession) (sources : OptionSources)
    (request : EmitRequest) : CompileOutcome :=
  let resolution := loader.registry.resolve factory session sources
  match resolution.result with
  | .error cause => ⟨⟨resolution.registry⟩, .error cause, resolution.asked, none,
      resolution.events⟩
  | .ok inst =>
    let outcome := request.emit workspace inst.options compiler inst.state
    ⟨⟨resolution.registry.put { inst with state := outcome.state }⟩, outcome.result,
      resolution.asked, some outcome.call, resolution.events ++ outcome.events⟩

/-- What a watch pass does to an instance, by the policy of the instance. -/
def watchInstance (workspace : Workspace) (observed : List RawPath) (inst : Instance) :
    WatchOutcome :=
  inst.state.reconcile workspace inst.options.watchUnreadable observed

/-- The events of a watch pass over an instance. -/
def watchEvents (key : String) (outcome : WatchOutcome) : List Event :=
  if outcome.report.isEmpty then outcome.events
  else
    let refreshed := outcome.report.refreshed.length
    let untracked := outcome.report.untracked.length
    outcome.events ++
      [.debug s!"Watch pass on {key}: {refreshed} refreshed, {untracked} untracked"]

/-- Brings all instances up to date with what was observed. Only passes that did something
are reported, in the order of the keys. An instance stands under its own key, so it makes no
difference whether reports and events bear this key or the one it stands under. -/
def watchRun (workspace : Workspace) (loader : Loader) (observed : List RawPath) : WatchRun :=
  let watch := watchInstance workspace observed
  let instances := loader.registry.instances
  let outcomes := instances.toList.map fun (key, inst) => (key, watch inst)
  { loader := ⟨{ loader.registry with
      instances := instances.map fun _ inst => { inst with state := (watch inst).state } }⟩
    reports := (outcomes.filter fun (_, outcome) => !outcome.report.isEmpty).map
      fun (key, outcome) => (key, outcome.report)
    events := outcomes.flatMap fun (key, outcome) => watchEvents key outcome }

/-- Takes the modified paths of an instance, if there is one with the key. -/
def takeModified? (loader : Loader) (key : String) : Option (Loader × List String) :=
  (loader.registry.get? key).map fun inst =>
    let state := { inst.state with files := inst.state.files.drain }
    (⟨loader.registry.put { inst with state }⟩, inst.state.files.modifiedFiles)

/-- Forgets all sessions and instances. -/
def clear (_ : Loader) : Loader :=
  ∅

end Loader

/-- A call of the build tool with everything that its outcome depends on: where the program
works at the time, and how compilers behave. -/
inductive LoaderCall where
  | compile (workspace : Workspace) (factory : CompilerFactory) (compiler : Compiler)
      (session : BuildSession) (sources : OptionSources) (request : EmitRequest)
  | watch (workspace : Workspace) (observed : List RawPath)
  | takeModified (key : String)

namespace Loader

/-- The loader after a call. -/
def apply (loader : Loader) : LoaderCall → Loader
  | .compile workspace factory compiler session sources request =>
    (loader.compile workspace factory compiler session sources request).loader
  | .watch workspace observed => (loader.watchRun workspace observed).loader
  | .takeModified key => ((loader.takeModified? key).map (·.1)).getD loader

/-- The loader after a history of calls. -/
def run (loader : Loader) (calls : List LoaderCall) : Loader :=
  calls.foldl apply loader

end Loader

end ScriptLoader
