import ScriptLoader.Compiler.Host

/-!
# Watch passes

After files changed outside, the tracked sources among them are read again. Whoever reports
a file as changed is believed, so its version moves even if its content is the same. A file
that cannot be read either becomes empty or is forgotten.
-/

namespace ScriptLoader

/-- What a watch pass did. -/
structure WatchReport where
  /-- The files read again, in order. -/
  refreshed : List String
  /-- The files forgotten, in order. -/
  untracked : List String
  deriving DecidableEq, Repr

namespace WatchReport

/-- The report of a pass that did nothing. -/
def empty : WatchReport := ⟨[], []⟩

/-- Whether a pass did nothing. -/
def isEmpty (report : WatchReport) : Bool :=
  report.refreshed.isEmpty && report.untracked.isEmpty

/-- The report of a pass followed by another. -/
def append (first second : WatchReport) : WatchReport :=
  ⟨first.refreshed ++ second.refreshed, first.untracked ++ second.untracked⟩

instance : Append WatchReport := ⟨append⟩

end WatchReport

/-- The state after a watch pass, its report and its events. -/
structure WatchOutcome where
  state : InstanceState
  report : WatchReport
  events : List Event

namespace InstanceState

/-- Forgets a file. -/
def forget (state : InstanceState) (path : String) : InstanceState :=
  ⟨state.files.untrack path, state.graph.removeFile path⟩

/-- Gives a tracked file the content that it has after an outside change. -/
def refresh (state : InstanceState) (path content : String) : WatchOutcome :=
  match state.files.refresh path content with
  | .ok (files, version) =>
    ⟨{ state with files }, ⟨[path], []⟩,
      [.debug s!"Watch refreshed {path} to version {version}"]⟩
  | .error cause => ⟨state, .empty, [.warn s!"Cannot refresh {path}: {cause.message}"]⟩

/-- Reads a file again, if it is tracked. -/
def reread (disk : Disk) (policy : UnreadablePolicy) (state : InstanceState) (path : String) :
    WatchOutcome :=
  if !state.files.contains path then ⟨state, .empty, []⟩
  else
    match disk.read path with
    | .ok content => state.refresh path content
    | .error cause =>
      match policy with
      | .empty =>
        let outcome := state.refresh path ""
        { outcome with
          events :=
            .warn s!"Cannot re-read {path}, treating it as empty: {cause.message}" ::
              outcome.events }
      | .untrack =>
        ⟨state.forget path, ⟨[], [path]⟩,
          [.warn s!"Cannot re-read {path}, no longer tracking it: {cause.message}"]⟩

/-- Reads files again, one after the other. -/
def rereadAll (disk : Disk) (policy : UnreadablePolicy) : InstanceState → List String →
    WatchOutcome
  | state, [] => ⟨state, .empty, []⟩
  | state, path :: rest =>
    let first := state.reread disk policy path
    let others := rereadAll disk policy first.state rest
    ⟨others.state, first.report ++ others.report, first.events ++ others.events⟩

end InstanceState

namespace Workspace

/-- The sources among the observed paths in normal form, in order and each once. -/
def watched (workspace : Workspace) (observed : List RawPath) : List String :=
  let paths := observed.map (·.normalize workspace.directory)
  (Std.ExtTreeSet.ofList (paths.filter Path.isWatched) compare).toList

end Workspace

/-- Brings an instance up to date with what was observed. -/
def InstanceState.reconcile (workspace : Workspace) (policy : UnreadablePolicy)
    (state : InstanceState) (observed : List RawPath) : WatchOutcome :=
  state.rereadAll workspace.disk policy (workspace.watched observed)

end ScriptLoader
