import ScriptLoader.Proofs.FileStore.Frame
import ScriptLoader.Proofs.Instance.Edges
import ScriptLoader.Proofs.Path.Kind

/-!
# What a watch pass does, exactly

A pass looks at the tracked sources among the observed files, each once however often and
under however many names it was observed. `WatchPass` says everything about its outcome: which
files are in the report, what becomes of them in the file store and in the graph, and that
nothing becomes of anything else. It holds of a pass over any state.
-/

namespace ScriptLoader

/-- A watch pass has to look at a file: it was observed, its name is that of a source, and it
is tracked. -/
structure InstanceState.IsDue (workspace : Workspace) (observed : List RawPath)
    (state : InstanceState) (path : String) : Prop where
  isObserved : ∃ raw ∈ observed, raw.normalize workspace.directory = path
  isSource : Path.IsSourceName path
  isTracked : state.files.contains path = true

/-- A file is given up in a watch pass, provided that the pass looks at it: it cannot be
read, and such files are not to be kept. -/
def GivenUp (disk : Disk) (policy : UnreadablePolicy) (path : String) : Prop :=
  policy = .untrack ∧ ∃ cause, disk.read path = .error cause

/-- The outcome of a watch pass over a state. -/
structure WatchPass (workspace : Workspace) (policy : UnreadablePolicy)
    (observed : List RawPath) (before : InstanceState) (outcome : WatchOutcome) : Prop where
  /-- The files given up are reported as forgotten, in order. -/
  mem_untracked_iff : ∀ path, path ∈ outcome.report.untracked ↔
    before.IsDue workspace observed path ∧ GivenUp workspace.disk policy path
  untracked_ordered : outcome.report.untracked.Pairwise (· < ·)
  /-- The others that the pass looks at are reported as refreshed, in order. -/
  mem_refreshed_iff : ∀ path, path ∈ outcome.report.refreshed ↔
    before.IsDue workspace observed path ∧ ¬ GivenUp workspace.disk policy path
  refreshed_ordered : outcome.report.refreshed.Pairwise (· < ·)
  /-- An observed declaration file that is tracked is in the report. -/
  declaration_reported : ∀ raw ∈ observed,
    Path.IsDeclarationName (raw.normalize workspace.directory) →
    before.files.contains (raw.normalize workspace.directory) = true →
    raw.normalize workspace.directory ∈ outcome.report.refreshed ∨
      raw.normalize workspace.directory ∈ outcome.report.untracked
  /-- A refreshed file moves by one version and has the text on disk, or none. -/
  record_refreshed : ∀ path ∈ outcome.report.refreshed, ∃ record,
    before.files.get? path = some record ∧
    outcome.state.files.get? path = some
      { record with
        version := record.version + 1
        content := some ((workspace.disk.read path).toOption.getD "") }
  modified_refreshed : ∀ path ∈ outcome.report.refreshed,
    outcome.state.files.isModified path = true
  /-- A forgotten file is nowhere. -/
  gone_untracked : ∀ path ∈ outcome.report.untracked,
    outcome.state.files.get? path = none ∧
    outcome.state.files.isModified path = false ∧
    outcome.state.graph.contains path = false ∧
    ∀ file, path ∉ outcome.state.graph.dependenciesOf file
  /-- Every refreshed file counts as one change. -/
  programVersion_eq : outcome.state.files.programVersion =
    before.files.programVersion + outcome.report.refreshed.length
  /-- The records and marks of all other files stay. -/
  other_files : ∀ path, path ∉ outcome.report.refreshed → path ∉ outcome.report.untracked →
    outcome.state.files.get? path = before.files.get? path ∧
    outcome.state.files.isModified path = before.files.isModified path
  /-- All dependencies but those of and on forgotten files stay, in their order. -/
  other_edges : ∀ file, file ∉ outcome.report.untracked →
    outcome.state.graph.recorded? file =
      (before.graph.recorded? file).map fun dependencies =>
        dependencies.filter (· ∉ outcome.report.untracked)

section Looking

variable {disk : Disk} {policy : UnreadablePolicy} {path : String}

/-- A pass forgets the files that are given up. -/
theorem forgets_iff : forgets disk policy path = true ↔ GivenUp disk policy path := by
  unfold forgets GivenUp
  cases disk.read path <;> simp [Except.isOk, Except.toBool]

/-- Looking at a file that is not given up refreshes it with its text on disk, or with none. -/
theorem lookOp_of_kept (kept : ¬ GivenUp disk policy path) :
    lookOp disk policy path = .refresh path ((disk.read path).toOption.getD "") := by
  unfold lookOp
  unfold GivenUp at kept
  cases read : disk.read path with
  | ok text => rfl
  | error cause =>
    cases policy with
    | empty => rfl
    | untrack => exact absurd ⟨rfl, cause, read⟩ kept

/-- Looking at a file that is given up ends its tracking. -/
theorem lookOp_of_givenUp (givenUp : GivenUp disk policy path) :
    lookOp disk policy path = .untrack path := by
  obtain ⟨rfl, cause, read⟩ := givenUp
  simp [lookOp, read]

variable (disk policy)

/-- Looking at other files. -/
theorem lookOp_isElsewhere {paths : List String} (absent : path ∉ paths) :
    ∀ op ∈ paths.map (lookOp disk policy), op.IsElsewhere path := by
  intro op member
  obtain ⟨other, among, rfl⟩ := List.mem_map.mp member
  refine ⟨other, target?_lookOp disk policy other, ?_⟩
  rintro rfl
  exact absent among

/-- Looking at several files does to each of them what looking at it alone does. -/
theorem run_lookOp_of_mem {paths : List String} (distinct : paths.Nodup) (among : path ∈ paths)
    (store : FileStore) :
    (store.run (paths.map (lookOp disk policy))).get? path =
        (lookOp disk policy path).onRecord path (store.get? path) ∧
      (store.run (paths.map (lookOp disk policy))).isModified path =
        (lookOp disk policy path).onMark path (store.contains path) (store.isModified path) := by
  -- The file is looked at once. What is looked at before and after it is about other files.
  obtain ⟨front, back, rfl⟩ := List.append_of_mem among
  obtain ⟨_, backDistinct, disjoint⟩ := List.nodup_append.mp distinct
  have notInFront : path ∉ front := by
    intro inFront
    exact disjoint path inFront path (List.mem_cons_self ..) rfl
  have notInBack : path ∉ back := (List.nodup_cons.mp backDistinct).1
  obtain ⟨frontRecord, frontMark⟩ :=
    FileStore.frame_run (lookOp_isElsewhere disk policy notInFront) store
  rw [List.map_append, List.map_cons, FileStore.run_append, FileStore.run_cons]
  obtain ⟨backRecord, backMark⟩ := FileStore.frame_run
    (lookOp_isElsewhere disk policy notInBack)
    ((store.run (front.map (lookOp disk policy))).apply (lookOp disk policy path)).1
  rw [backRecord, backMark, FileStore.get?_apply, FileStore.isModified_apply, frontRecord,
    frontMark, FileStore.contains, FileStore.contains, frontRecord]
  exact ⟨rfl, rfl⟩

/-- Looking at tracked files counts those that are refreshed. -/
theorem programVersion_run_lookOp {paths : List String} (distinct : paths.Nodup)
    {store : FileStore} (tracked : ∀ path ∈ paths, store.contains path = true) :
    (store.run (paths.map (lookOp disk policy))).programVersion =
      store.programVersion + (paths.filter (!forgets disk policy ·)).length := by
  induction paths generalizing store with
  | nil => rfl
  | cons path rest ih =>
    obtain ⟨absent, restDistinct⟩ := List.nodup_cons.mp distinct
    obtain ⟨pathTracked, restTracked⟩ := List.forall_mem_cons.mp tracked
    have stillTracked : ∀ other ∈ rest,
        (store.apply (lookOp disk policy path)).1.contains other = true := by
      intro other among
      rw [FileStore.contains_apply_of_other]
      · exact restTracked other among
      · rw [target?_lookOp]
        rintro ⟨⟩
        exact absent among
    rw [List.map_cons, FileStore.run_cons, ih restDistinct stillTracked,
      FileStore.programVersion_apply]
    by_cases givenUp : GivenUp disk policy path
    · rw [lookOp_of_givenUp givenUp,
        List.filter_cons_of_neg (by simp [forgets_iff.mpr givenUp])]
      rfl
    · have kept : forgets disk policy path = false := by
        rw [← Bool.not_eq_true, forgets_iff]
        exact givenUp
      rw [lookOp_of_kept givenUp, List.filter_cons_of_pos (by simp [kept]), List.length_cons]
      simp only [FileStore.Op.changes, pathTracked, if_true]
      omega

end Looking

/-- The sources among the observed paths come in order. -/
theorem Workspace.watched_ordered (workspace : Workspace) (observed : List RawPath) :
    (workspace.watched observed).Pairwise (· < ·) := by
  unfold Workspace.watched
  exact Collection.pairwise_lt_of_compare Std.ExtTreeSet.ordered_toList

/-- The watched paths are the observed ones with the name of a source, in normal form. -/
theorem Workspace.mem_watched_iff {workspace : Workspace} {observed : List RawPath}
    {path : String} : path ∈ workspace.watched observed ↔
      (∃ raw ∈ observed, raw.normalize workspace.directory = path) ∧
        Path.IsSourceName path := by
  unfold Workspace.watched
  rw [Std.ExtTreeSet.mem_toList, Std.ExtTreeSet.mem_ofList, List.contains_iff_mem,
    List.mem_filter, List.mem_map, Path.isWatched_iff]

namespace InstanceState

variable {workspace : Workspace} {observed : List RawPath} {state : InstanceState}

/-- A pass looks at the files that it has to look at. -/
theorem mem_looked_iff {path : String} :
    path ∈ state.looked workspace observed ↔ state.IsDue workspace observed path := by
  unfold looked
  rw [List.mem_filter, Workspace.mem_watched_iff]
  constructor
  · rintro ⟨⟨isObserved, isSource⟩, isTracked⟩
    exact ⟨isObserved, isSource, isTracked⟩
  · rintro ⟨isObserved, isSource, isTracked⟩
    exact ⟨⟨isObserved, isSource⟩, isTracked⟩

/-- A pass looks at no file twice. -/
theorem nodup_looked : (state.looked workspace observed).Nodup :=
  (workspace.nodup_watched observed).filter _

/-- A pass looks at files in the order of their paths. -/
theorem looked_ordered : (state.looked workspace observed).Pairwise (· < ·) :=
  (workspace.watched_ordered observed).filter _

/-- The files that a pass reports as forgotten are those that it looks at and gives up. -/
theorem mem_untracked_reconcile_iff {policy : UnreadablePolicy} {path : String} :
    path ∈ (state.reconcile workspace policy observed).report.untracked ↔
      state.IsDue workspace observed path ∧ GivenUp workspace.disk policy path := by
  rw [report_reconcile, List.mem_filter, mem_looked_iff, forgets_iff]

/-- The files that a pass reports as refreshed are the others that it looks at. -/
theorem mem_refreshed_reconcile_iff {policy : UnreadablePolicy} {path : String} :
    path ∈ (state.reconcile workspace policy observed).report.refreshed ↔
      state.IsDue workspace observed path ∧ ¬ GivenUp workspace.disk policy path := by
  rw [report_reconcile, List.mem_filter, mem_looked_iff, Bool.not_eq_true', ← Bool.not_eq_true,
    forgets_iff]

/-- A file that the pass looks at shows what looking at it alone does. -/
theorem reconcile_of_isDue {policy : UnreadablePolicy} {path : String}
    (due : state.IsDue workspace observed path) :
    (state.reconcile workspace policy observed).state.files.get? path =
        (lookOp workspace.disk policy path).onRecord path (state.files.get? path) ∧
      (state.reconcile workspace policy observed).state.files.isModified path =
        (lookOp workspace.disk policy path).onMark path true (state.files.isModified path) := by
  rw [files_reconcile, ← due.isTracked]
  exact run_lookOp_of_mem workspace.disk policy nodup_looked (mem_looked_iff.mpr due) state.files

/-- A file that a pass reports as refreshed had a record, which moved by one version. -/
theorem get?_reconcile_of_refreshed {policy : UnreadablePolicy} {path : String}
    (refreshed : path ∈ (state.reconcile workspace policy observed).report.refreshed) :
    ∃ record, state.files.get? path = some record ∧
      (state.reconcile workspace policy observed).state.files.get? path = some
        { record with
          version := record.version + 1
          content := some ((workspace.disk.read path).toOption.getD "") } := by
  obtain ⟨due, kept⟩ := mem_refreshed_reconcile_iff.mp refreshed
  have known := FileStore.contains_iff.mp due.isTracked
  refine ⟨_, known, ?_⟩
  rw [(reconcile_of_isDue due).1, lookOp_of_kept kept, known]
  simp [FileStore.Op.onRecord, FileRecord.change]

/-- A file that a pass reports as refreshed is marked as modified. -/
theorem isModified_reconcile_of_refreshed {policy : UnreadablePolicy} {path : String}
    (refreshed : path ∈ (state.reconcile workspace policy observed).report.refreshed) :
    (state.reconcile workspace policy observed).state.files.isModified path = true := by
  obtain ⟨due, kept⟩ := mem_refreshed_reconcile_iff.mp refreshed
  rw [(reconcile_of_isDue due).2, lookOp_of_kept kept]
  simp [FileStore.Op.onMark]

/-- A file that a pass reports as forgotten is in no part of the state. -/
theorem reconcile_of_untracked {policy : UnreadablePolicy} {path : String}
    (untracked : path ∈ (state.reconcile workspace policy observed).report.untracked) :
    (state.reconcile workspace policy observed).state.files.get? path = none ∧
      (state.reconcile workspace policy observed).state.files.isModified path = false ∧
      (state.reconcile workspace policy observed).state.graph.contains path = false ∧
      ∀ file, path ∉
        (state.reconcile workspace policy observed).state.graph.dependenciesOf file := by
  obtain ⟨due, givenUp⟩ := mem_untracked_reconcile_iff.mp untracked
  have edges := fun file => DependencyGraph.recorded?_run_remove state.graph
    (state.reconcile workspace policy observed).report.untracked file
  refine ⟨get?_reconcile_of_untracked workspace policy state observed untracked, ?_, ?_, ?_⟩
  · rw [(reconcile_of_isDue due).2, lookOp_of_givenUp givenUp]
    simp [FileStore.Op.onMark]
  · rw [graph_reconcile, DependencyGraph.contains_eq, edges, if_pos untracked]
    rfl
  · intro file
    rw [graph_reconcile, DependencyGraph.dependenciesOf_eq, edges]
    split
    · simp
    · cases state.graph.recorded? file <;> simp [untracked]

/-- A pass counts as many changes as it reports refreshed files. -/
theorem programVersion_reconcile (workspace : Workspace) (policy : UnreadablePolicy)
    (state : InstanceState) (observed : List RawPath) :
    (state.reconcile workspace policy observed).state.files.programVersion =
      state.files.programVersion +
        (state.reconcile workspace policy observed).report.refreshed.length := by
  have tracked : ∀ path ∈ state.looked workspace observed,
      state.files.contains path = true :=
    fun path looked => (mem_looked_iff.mp looked).isTracked
  rw [files_reconcile, report_reconcile]
  exact programVersion_run_lookOp workspace.disk policy nodup_looked tracked

/-- A file that is not in the report keeps its record and its mark. -/
theorem reconcile_of_unreported {policy : UnreadablePolicy} {path : String}
    (notRefreshed : path ∉ (state.reconcile workspace policy observed).report.refreshed)
    (notUntracked : path ∉ (state.reconcile workspace policy observed).report.untracked) :
    (state.reconcile workspace policy observed).state.files.get? path =
        state.files.get? path ∧
      (state.reconcile workspace policy observed).state.files.isModified path =
        state.files.isModified path := by
  have notLooked : path ∉ state.looked workspace observed := by
    intro looked
    have due := mem_looked_iff.mp looked
    by_cases givenUp : GivenUp workspace.disk policy path
    · exact notUntracked (mem_untracked_reconcile_iff.mpr ⟨due, givenUp⟩)
    · exact notRefreshed (mem_refreshed_reconcile_iff.mpr ⟨due, givenUp⟩)
  rw [files_reconcile]
  exact FileStore.frame_run (lookOp_isElsewhere workspace.disk policy notLooked) state.files

/-- A watch pass over any state does what it reports, and no more. -/
theorem reconcile_watchPass (workspace : Workspace) (policy : UnreadablePolicy)
    (state : InstanceState) (observed : List RawPath) :
    WatchPass workspace policy observed state (state.reconcile workspace policy observed) where
  mem_untracked_iff _ := mem_untracked_reconcile_iff
  untracked_ordered := by
    rw [report_reconcile]
    exact looked_ordered.filter _
  mem_refreshed_iff _ := mem_refreshed_reconcile_iff
  refreshed_ordered := by
    rw [report_reconcile]
    exact looked_ordered.filter _
  declaration_reported := by
    intro raw member declaration tracked
    have due : state.IsDue workspace observed (raw.normalize workspace.directory) :=
      ⟨⟨raw, member, rfl⟩, declaration.isSourceName, tracked⟩
    by_cases givenUp : GivenUp workspace.disk policy (raw.normalize workspace.directory)
    · exact .inr (mem_untracked_reconcile_iff.mpr ⟨due, givenUp⟩)
    · exact .inl (mem_refreshed_reconcile_iff.mpr ⟨due, givenUp⟩)
  record_refreshed _ := get?_reconcile_of_refreshed
  modified_refreshed _ := isModified_reconcile_of_refreshed
  gone_untracked _ := reconcile_of_untracked
  programVersion_eq := programVersion_reconcile workspace policy state observed
  other_files _ := reconcile_of_unreported
  other_edges := by
    intro file notUntracked
    rw [graph_reconcile, DependencyGraph.recorded?_run_remove, if_neg notUntracked]

end InstanceState

end ScriptLoader
