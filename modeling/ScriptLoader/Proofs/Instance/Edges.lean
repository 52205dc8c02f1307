import ScriptLoader.Proofs.Graph.Effect
import ScriptLoader.Proofs.Instance.History

/-!
# The dependencies of an instance as a history

As its files do, the graph of an instance changes as by a history of operations. A compiler
sets and adds dependencies through its host and removes none; a watch pass removes the files
that it reports as forgotten, and records nothing.
-/

namespace ScriptLoader

section Compilation

variable (workspace : Workspace) (options : LoaderOptions)

/-- The changes of the graph that a call of a compiler makes. -/
def HostCall.changes : HostCall → List DependencyGraph.Op
  | .setResolvedModules file resolved =>
    [.set (workspace.normalize file) (resolved.map workspace.normalize)]
  | .recordDependency file dependency =>
    [.add (workspace.normalize file) (workspace.normalize dependency)]
  | _ => []

/-- The changes of the graph that a compiler makes, call by call. -/
def CompilerCall.changes : CompilerCall → List DependencyGraph.Op
  | .emit _ answers => answers.flatMap fun (asked, _) => asked.changes workspace
  | .transpile _ => []

/-- Reading a file records no dependency. -/
theorem InstanceState.graph_read (state : InstanceState) (path : String) :
    (state.read workspace path).state.graph = state.graph := by
  simp only [InstanceState.read]
  split
  · rfl
  · split <;> rfl

/-- What a call of a compiler does to the graph. -/
theorem InstanceState.graph_answer (state : InstanceState) (asked : HostCall) :
    (state.answer workspace options asked).state.graph =
      state.graph.run (asked.changes workspace) := by
  cases asked with
  | read path => exact state.graph_read workspace path
  | _ => rfl

/-- What a compiler does to the graph until it has a result. -/
theorem HostProgram.graph_run {α : Type} (program : HostProgram α) (state : InstanceState) :
    (program.run workspace options state).state.graph =
      state.graph.run ((program.run workspace options state).answers.flatMap
        fun (asked, _) => asked.changes workspace) := by
  induction program generalizing state with
  | done result => rfl
  | call asked next ih =>
    simp only [HostProgram.run, List.flatMap_cons, DependencyGraph.run_append]
    rw [ih, InstanceState.graph_answer]

/-- A compilation changes the graph as its compiler tells it to. -/
theorem EmitRequest.graph_emit (compiler : Compiler) (state : InstanceState)
    (request : EmitRequest) :
    (request.emit workspace options compiler state).state.graph =
      state.graph.run
        ((request.emit workspace options compiler state).call.changes workspace) := by
  unfold EmitRequest.emit
  split
  · rfl
  · exact HostProgram.graph_run workspace options _ _

end Compilation

namespace InstanceState

variable (disk : Disk) (policy : UnreadablePolicy)

private theorem graph_refresh (state : InstanceState) (path content : String) :
    (state.refresh path content).state.graph = state.graph ∧
      (state.refresh path content).report.untracked = [] := by
  unfold InstanceState.refresh
  split <;> exact ⟨rfl, rfl⟩

private theorem graph_reread (state : InstanceState) (path : String) :
    (state.reread disk policy path).state.graph =
      state.graph.run ((state.reread disk policy path).report.untracked.map .remove) := by
  have kept : ∀ content, (state.refresh path content).state.graph =
      state.graph.run ((state.refresh path content).report.untracked.map .remove) := by
    intro content
    obtain ⟨graphEq, untrackedEq⟩ := state.graph_refresh path content
    rw [graphEq, untrackedEq]
    rfl
  unfold reread
  split
  · rfl
  · split
    · exact kept _
    · cases policy with
      | empty => exact kept ""
      | untrack => rfl

/-- Looking at files removes the forgotten ones, one after the other. -/
theorem graph_rereadAll (state : InstanceState) (paths : List String) :
    (state.rereadAll disk policy paths).state.graph =
      state.graph.run ((state.rereadAll disk policy paths).report.untracked.map .remove) := by
  induction paths generalizing state with
  | nil => rfl
  | cons path rest ih =>
    change _ = state.graph.run (((state.reread disk policy path).report.untracked ++
      ((state.reread disk policy path).state.rereadAll disk policy rest).report.untracked).map
        .remove)
    rw [List.map_append, DependencyGraph.run_append, ← graph_reread]
    exact ih _

/-- A watch pass removes the files that it reports as forgotten from the graph. -/
theorem graph_reconcile (workspace : Workspace) (state : InstanceState)
    (observed : List RawPath) :
    (state.reconcile workspace policy observed).state.graph =
      state.graph.run ((state.reconcile workspace policy observed).report.untracked.map
        .remove) :=
  graph_rereadAll workspace.disk policy state _

end InstanceState

end ScriptLoader
