import ScriptLoader.Proofs.FileStore.Frame
import ScriptLoader.Proofs.Instance.Edges
import ScriptLoader.Proofs.Path.NormalForm

/-!
# The paths that an instance holds

Paths are held as keys of records, as marks, as files with dependencies and as dependencies.
`Within` says of a state that all of them satisfy a condition. An operation brings in no
path but those that it names; in an instance these are normal forms, so the paths that it
holds stay in normal form.
-/

namespace ScriptLoader

section Within

variable {Allowed : String → Prop}

/-- All paths that a store holds satisfy a condition. -/
structure FileStore.Within (Allowed : String → Prop) (store : FileStore) : Prop where
  keys : ∀ path, store.contains path = true → Allowed path
  marks : ∀ path, store.isModified path = true → Allowed path

namespace FileStore

/-- The empty store holds no path. -/
theorem within_empty : (∅ : FileStore).Within Allowed where
  keys := by
    intro path tracked
    simp [contains] at tracked
  marks := by
    intro path marked
    change (∅ : Std.ExtTreeSet String compare).contains path = true at marked
    simp at marked

/-- A mark that an operation about other paths leaves was there before. -/
theorem Op.onMark_of_other {op : Op} {path : String} (other : op.target? ≠ some path)
    {tracked marked : Bool} (left : op.onMark path tracked marked = true) : marked = true := by
  cases op <;> simp_all [Op.target?, Op.onMark]

/-- An operation brings in its own path only. -/
theorem Within.apply {store : FileStore} (within : store.Within Allowed) {op : Op}
    (aim : ∀ target, op.target? = some target → Allowed target) :
    (store.apply op).1.Within Allowed where
  keys := by
    intro path tracked
    by_cases aimed : op.target? = some path
    · exact aim path aimed
    · rw [contains_apply_of_other aimed] at tracked
      exact within.keys path tracked
  marks := by
    intro path marked
    by_cases aimed : op.target? = some path
    · exact aim path aimed
    · rw [isModified_apply] at marked
      exact within.marks path (Op.onMark_of_other aimed marked)

/-- A history whose operations are about paths with a condition brings in no others. -/
theorem Within.run {store : FileStore} (within : store.Within Allowed) {ops : List Op}
    (aims : ∀ op ∈ ops, ∀ target, op.target? = some target → Allowed target) :
    (store.run ops).Within Allowed := by
  induction ops generalizing store with
  | nil => exact within
  | cons op ops ih =>
    obtain ⟨aim, laterAims⟩ := List.forall_mem_cons.mp aims
    exact ih (within.apply aim) laterAims

end FileStore

/-- All paths that a graph holds satisfy a condition. -/
def DependencyGraph.Within (Allowed : String → Prop) (graph : DependencyGraph) : Prop :=
  ∀ file dependencies, graph.recorded? file = some dependencies →
    Allowed file ∧ ∀ dependency ∈ dependencies, Allowed dependency

namespace DependencyGraph

/-- All paths that a change records satisfy a condition. -/
def Op.Within (Allowed : String → Prop) : Op → Prop
  | .set file dependencies => Allowed file ∧ ∀ dependency ∈ dependencies, Allowed dependency
  | .add file dependency => Allowed file ∧ Allowed dependency
  | .remove _ => True

/-- The empty graph holds no path. -/
theorem within_empty : (∅ : DependencyGraph).Within Allowed := by
  intro file dependencies recorded
  change (∅ : Std.ExtTreeMap String (List String) compare)[file]? = some dependencies at recorded
  simp at recorded

/-- A change brings in the paths that it records only. -/
theorem Within.apply {graph : DependencyGraph} (within : graph.Within Allowed) {op : Op}
    (brings : op.Within Allowed) : (graph.apply op).Within Allowed := by
  intro file dependencies recorded
  rw [recorded?_apply] at recorded
  cases op with
  | set target resolved =>
    simp only [Op.onRecorded] at recorded
    split at recorded
    · next aimed =>
      subst aimed
      cases recorded
      refine ⟨brings.1, ?_⟩
      intro dependency member
      exact brings.2 dependency (List.mem_eraseDups.mp member)
    · exact within file dependencies recorded
  | add target added =>
    simp only [Op.onRecorded] at recorded
    split at recorded
    · next aimed =>
      subst aimed
      have known : ∀ dependency ∈ (graph.recorded? target).getD [], Allowed dependency := by
        cases recordedEq : graph.recorded? target with
        | none => simp
        | some before => exact (within target before recordedEq).2
      cases recorded
      refine ⟨brings.1, ?_⟩
      intro dependency member
      split at member
      · exact known dependency member
      · rcases List.mem_append.mp member with early | new
        · exact known dependency early
        · rw [List.mem_singleton.mp new]
          exact brings.2
    · exact within file dependencies recorded
  | remove target =>
    simp only [Op.onRecorded] at recorded
    split at recorded
    · cases recorded
    · obtain ⟨before, recordedEq, rfl⟩ := Option.map_eq_some_iff.mp recorded
      obtain ⟨fileAllowed, allAllowed⟩ := within file before recordedEq
      refine ⟨fileAllowed, ?_⟩
      intro dependency member
      exact allAllowed dependency (List.mem_filter.mp member).1

/-- Changes that record paths with a condition bring in no others. -/
theorem Within.run {graph : DependencyGraph} (within : graph.Within Allowed) {ops : List Op}
    (brings : ∀ op ∈ ops, op.Within Allowed) : (graph.run ops).Within Allowed := by
  induction ops generalizing graph with
  | nil => exact within
  | cons op ops ih =>
    obtain ⟨here, later⟩ := List.forall_mem_cons.mp brings
    exact ih (within.apply here) later

end DependencyGraph

/-- All paths that an instance holds satisfy a condition. -/
structure InstanceState.Within (Allowed : String → Prop) (state : InstanceState) : Prop where
  files : state.files.Within Allowed
  graph : state.graph.Within Allowed

/-- A new instance holds no path. -/
theorem InstanceState.within_empty : (∅ : InstanceState).Within Allowed :=
  ⟨FileStore.within_empty, DependencyGraph.within_empty⟩

end Within

/-- The directory of a workspace is given from a root or a drive on. -/
def Workspace.IsAbsolute (workspace : Workspace) : Prop :=
  Path.IsAbsoluteDirectory workspace.directory

instance (workspace : Workspace) : Decidable workspace.IsAbsolute :=
  inferInstanceAs (Decidable (Path.IsAbsoluteDirectory workspace.directory))

section NormalForms

variable {workspace : Workspace} (absolute : workspace.IsAbsolute)

include absolute

/-- Every path in a workspace is brought to normal form. -/
theorem Workspace.isNormal_normalize (path : String) : Path.IsNormal (workspace.normalize path) :=
  Path.isNormal_normalize absolute path

/-- The path under which a file is compiled is in normal form, also with a suffix. -/
theorem EmitRequest.isNormal_path (options : LoaderOptions) (request : EmitRequest) :
    Path.IsNormal (request.path workspace options) := by
  have resourceNormal : Path.IsNormal (request.resource.normalize workspace.directory) :=
    Path.isNormal_normalize absolute request.resource.shown
  unfold EmitRequest.path LoaderOptions.compilePath
  split
  · exact resourceNormal.append (by decide) (by decide)
  · exact resourceNormal

/-- What a compiler asks to read is named in normal form. -/
theorem CompilerCall.isNormal_of_mem_reads {call : CompilerCall} {path : String}
    (asked : path ∈ call.reads workspace) : Path.IsNormal path := by
  cases call with
  | emit _ answers =>
    obtain ⟨⟨question, _⟩, _, member⟩ := List.mem_flatMap.mp asked
    cases question with
    | read spelling =>
      obtain rfl := List.mem_singleton.mp member
      exact workspace.isNormal_normalize absolute spelling
    | _ => cases member
  | transpile _ => cases asked

/-- A compiler records normal forms. -/
theorem CompilerCall.within_changes {call : CompilerCall} {op : DependencyGraph.Op}
    (change : op ∈ call.changes workspace) : op.Within Path.IsNormal := by
  cases call with
  | emit _ answers =>
    obtain ⟨⟨question, _⟩, _, member⟩ := List.mem_flatMap.mp change
    cases question with
    | setResolvedModules file resolved =>
      obtain rfl := List.mem_singleton.mp member
      refine ⟨workspace.isNormal_normalize absolute file, ?_⟩
      intro dependency among
      obtain ⟨spelling, _, rfl⟩ := List.mem_map.mp among
      exact workspace.isNormal_normalize absolute spelling
    | recordDependency file dependency =>
      obtain rfl := List.mem_singleton.mp member
      exact ⟨workspace.isNormal_normalize absolute file,
        workspace.isNormal_normalize absolute dependency⟩
    | _ => cases member
  | transpile _ => cases change

namespace InstanceState

variable {state : InstanceState} (within : state.Within Path.IsNormal)

include within

/-- A compilation brings in normal forms only. -/
theorem within_emit (options : LoaderOptions) (compiler : Compiler) (request : EmitRequest) :
    (request.emit workspace options compiler state).state.Within Path.IsNormal where
  files := by
    rw [EmitRequest.files_emit]
    refine within.files.run ?_
    intro op member target aim
    rcases List.mem_cons.mp member with rfl | later
    · obtain rfl := Option.some.inj aim
      exact request.isNormal_path absolute options
    · obtain ⟨asked, read, rfl⟩ := List.mem_map.mp later
      obtain rfl := Option.some.inj aim
      exact CompilerCall.isNormal_of_mem_reads absolute read
  graph := by
    rw [EmitRequest.graph_emit]
    exact within.graph.run fun op => CompilerCall.within_changes absolute

omit absolute in
/-- A watch pass brings in no paths. -/
theorem within_reconcile (workspace : Workspace) (policy : UnreadablePolicy)
    (observed : List RawPath) :
    (state.reconcile workspace policy observed).state.Within Path.IsNormal where
  files := by
    rw [files_reconcile]
    refine within.files.run ?_
    intro op member target aim
    obtain ⟨path, looked, rfl⟩ := List.mem_map.mp member
    rw [target?_lookOp] at aim
    obtain rfl := Option.some.inj aim
    exact within.files.keys path (List.mem_filter.mp looked).2
  graph := by
    rw [graph_reconcile]
    refine within.graph.run ?_
    intro op member
    obtain ⟨path, _, rfl⟩ := List.mem_map.mp member
    trivial

omit absolute in
/-- Taking the modified paths brings in no paths. -/
theorem within_drain :
    ({ state with files := state.files.drain } : InstanceState).Within Path.IsNormal where
  files := by
    have untargeted : ∀ target, FileStore.Op.drain.target? = some target → Path.IsNormal target := by
      intro target aim
      cases aim
    exact within.files.apply untargeted
  graph := within.graph

end InstanceState

end NormalForms

end ScriptLoader
