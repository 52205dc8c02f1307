import ScriptLoader.Emit
import ScriptLoader.Proofs.FileStore.Version
import ScriptLoader.Watch

/-!
# The files of an instance as a history

Whatever is done to an instance, its files change as by a history of operations on the file
store. A compilation supplies one file and then only reads; a watch pass refreshes or
forgets, one after the other, the tracked files among the observed ones. Laws of the store
that hold along every history so hold for the files of an instance.
-/

namespace ScriptLoader

section Compilation

variable (workspace : Workspace) (options : LoaderOptions)

/-- The paths that a call of a compiler reads from the files. -/
def HostCall.reads : HostCall → List String
  | .read path => [workspace.normalize path]
  | _ => []

/-- The paths that a compiler reads from the files, call by call. -/
def CompilerCall.reads : CompilerCall → List String
  | .emit _ answers => answers.flatMap fun (asked, _) => asked.reads workspace
  | .transpile _ => []

private theorem apply_track_of_content {store : FileStore} {path content : String}
    (holds : store.contentOf? path = some content) (disk : Disk) :
    (store.apply (.track disk path)).1 = store := by
  obtain ⟨record, known, held⟩ := Option.bind_eq_some_iff.mp holds
  simp [FileStore.apply, FileStore.track, FileStore.recordOf, known, held]

/-- Reading a file tracks it from disk. -/
theorem InstanceState.files_read (state : InstanceState) (path : String) :
    (state.read workspace path).state.files =
      (state.files.apply (.track workspace.disk (workspace.normalize path))).1 := by
  cases holds : state.files.contentOf? (workspace.normalize path) with
  | some content => simp only [InstanceState.read, holds, apply_track_of_content holds]
  | none =>
    simp only [InstanceState.read, holds, FileStore.apply]
    cases state.files.track workspace.disk (workspace.normalize path) <;> rfl

/-- What a call of a compiler does to the files. -/
theorem InstanceState.files_answer (state : InstanceState) (asked : HostCall) :
    (state.answer workspace options asked).state.files =
      state.files.run ((asked.reads workspace).map (.track workspace.disk)) := by
  cases asked with
  | read path => exact state.files_read workspace path
  | _ => rfl

/-- What a compiler does to the files until it has a result. -/
theorem HostProgram.files_run {α : Type} (program : HostProgram α) (state : InstanceState) :
    (program.run workspace options state).state.files =
      state.files.run
        (((program.run workspace options state).answers.flatMap
          fun (asked, _) => asked.reads workspace).map (.track workspace.disk)) := by
  induction program generalizing state with
  | done result => rfl
  | call asked next ih =>
    simp only [HostProgram.run, List.flatMap_cons, List.map_append, FileStore.run_append]
    rw [ih, InstanceState.files_answer]

/-- A compilation supplies its file, and after that its compiler reads. -/
theorem EmitRequest.files_emit (compiler : Compiler) (state : InstanceState)
    (request : EmitRequest) :
    (request.emit workspace options compiler state).state.files =
      state.files.run
        (.update (request.path workspace options) request.content ::
          ((request.emit workspace options compiler state).call.reads workspace).map
            (.track workspace.disk)) := by
  unfold EmitRequest.emit
  split
  · rfl
  · exact HostProgram.files_run workspace options _ _

end Compilation

section Watch

variable (disk : Disk) (policy : UnreadablePolicy)

/-- Whether a tracked file is forgotten when it is looked at. -/
def forgets (path : String) : Bool :=
  policy = .untrack && !(disk.read path).isOk

/-- What looking at a tracked file does to the files. -/
def lookOp (path : String) : FileStore.Op :=
  match disk.read path, policy with
  | .ok content, _ => .refresh path content
  | .error _, .empty => .refresh path ""
  | .error _, .untrack => .untrack path

/-- Looking at a file is about this file. -/
theorem target?_lookOp (path : String) : (lookOp disk policy path).target? = some path := by
  unfold lookOp
  split <;> rfl

/-- Looking at a file ends its tracking if the file is to be forgotten. -/
theorem lookOp_eq_untrack_iff {path other : String} :
    lookOp disk policy path = .untrack other ↔ path = other ∧ forgets disk policy path := by
  unfold lookOp forgets
  cases disk.read path <;> cases policy <;> simp [Except.isOk, Except.toBool]

namespace InstanceState

/-- A tracked file is refreshed, and this is reported. -/
theorem refresh_eq {state : InstanceState} {path : String}
    (tracked : state.files.contains path = true) (content : String) :
    (state.refresh path content).state.files =
        (state.files.apply (.refresh path content)).1 ∧
      (state.refresh path content).report = ⟨[path], []⟩ := by
  have known := FileStore.contains_iff.mp tracked
  simp [InstanceState.refresh, FileStore.apply, FileStore.refresh, known]

/-- A file that is not tracked is left alone. -/
theorem reread_of_untracked {state : InstanceState} {path : String}
    (untracked : state.files.contains path = false) :
    state.reread disk policy path = ⟨state, .empty, []⟩ := by
  simp [reread, untracked]

/-- Looking at a tracked file. -/
theorem reread_of_tracked {state : InstanceState} {path : String}
    (tracked : state.files.contains path = true) :
    (state.reread disk policy path).state.files =
        (state.files.apply (lookOp disk policy path)).1 ∧
      (state.reread disk policy path).report =
        if forgets disk policy path then ⟨[], [path]⟩ else ⟨[path], []⟩ := by
  unfold reread lookOp forgets
  cases disk.read path with
  | ok content => simpa [tracked, Except.isOk, Except.toBool] using refresh_eq tracked content
  | error cause =>
    cases policy with
    | empty => simpa [tracked, Except.isOk, Except.toBool] using refresh_eq tracked ""
    | untrack => simp [tracked, Except.isOk, Except.toBool, forget, FileStore.apply]

private theorem filter_contains_apply {store : FileStore} {path : String}
    {paths : List String} (absent : path ∉ paths) :
    paths.filter (store.apply (lookOp disk policy path)).1.contains =
      paths.filter store.contains := by
  apply List.filter_congr
  intro other member
  have different : path ≠ other := fun same => absent (same ▸ member)
  apply FileStore.contains_apply_of_other
  simpa [target?_lookOp] using different

/-- Looking at files one after the other does to the files what looking at each of the
tracked ones does, and reports those in their order. -/
theorem rereadAll_eq {paths : List String} (distinct : paths.Nodup) (state : InstanceState) :
    (state.rereadAll disk policy paths).state.files =
        state.files.run ((paths.filter state.files.contains).map (lookOp disk policy)) ∧
      (state.rereadAll disk policy paths).report =
        ⟨(paths.filter state.files.contains).filter (!forgets disk policy ·),
          (paths.filter state.files.contains).filter (forgets disk policy)⟩ := by
  induction paths generalizing state with
  | nil => exact ⟨rfl, rfl⟩
  | cons path rest ih =>
    obtain ⟨absent, distinct⟩ := List.nodup_cons.mp distinct
    simp only [rereadAll]
    obtain ⟨filesEq, reportEq⟩ := ih distinct (state.reread disk policy path).state
    rw [filesEq, reportEq]
    cases tracked : state.files.contains path with
    | false =>
      rw [reread_of_untracked disk policy tracked, List.filter_cons_of_neg (by simp [tracked])]
      exact ⟨rfl, rfl⟩
    | true =>
      obtain ⟨firstFiles, firstReport⟩ := reread_of_tracked disk policy tracked
      rw [firstFiles, firstReport, filter_contains_apply disk policy absent,
        List.filter_cons_of_pos tracked]
      refine ⟨rfl, ?_⟩
      cases forgotten : forgets disk policy path with
      | false =>
        rw [List.filter_cons_of_pos (by simp [forgotten]),
          List.filter_cons_of_neg (by simp [forgotten])]
        rfl
      | true =>
        rw [List.filter_cons_of_neg (by simp [forgotten]),
          List.filter_cons_of_pos forgotten]
        rfl

end InstanceState

end Watch

/-- Each source among the observed paths is looked at once. -/
theorem Workspace.nodup_watched (workspace : Workspace) (observed : List RawPath) :
    (workspace.watched observed).Nodup := by
  unfold Workspace.watched
  refine List.Pairwise.imp ?_ Std.ExtTreeSet.distinct_toList
  intro first second different same
  exact different (Std.LawfulEqCmp.compare_eq_iff_eq.mpr same)

section Reconcile

variable (workspace : Workspace) (policy : UnreadablePolicy) (state : InstanceState)
  (observed : List RawPath)

/-- The files that a watch pass looks at, in its order: the tracked ones among the sources
that were observed. -/
def InstanceState.looked : List String :=
  (workspace.watched observed).filter state.files.contains

/-- What a watch pass does to the files. -/
theorem InstanceState.files_reconcile :
    (state.reconcile workspace policy observed).state.files =
      state.files.run ((state.looked workspace observed).map (lookOp workspace.disk policy)) :=
  (rereadAll_eq workspace.disk policy (workspace.nodup_watched observed) state).1

/-- What a watch pass reports. -/
theorem InstanceState.report_reconcile :
    (state.reconcile workspace policy observed).report =
      ⟨(state.looked workspace observed).filter (!forgets workspace.disk policy ·),
        (state.looked workspace observed).filter (forgets workspace.disk policy)⟩ :=
  (rereadAll_eq workspace.disk policy (workspace.nodup_watched observed) state).2

/-- A watch pass ends the tracking of exactly the files that it reports as forgotten. -/
theorem InstanceState.untrack_mem_reconcile_iff {path : String} :
    .untrack path ∈ (state.looked workspace observed).map (lookOp workspace.disk policy) ↔
      path ∈ (state.reconcile workspace policy observed).report.untracked := by
  rw [report_reconcile, List.mem_map, List.mem_filter]
  constructor
  · rintro ⟨looked, member, isUntrack⟩
    obtain ⟨rfl, forgotten⟩ := (lookOp_eq_untrack_iff workspace.disk policy).mp isUntrack
    exact ⟨member, forgotten⟩
  · rintro ⟨member, forgotten⟩
    exact ⟨path, member, (lookOp_eq_untrack_iff workspace.disk policy).mpr ⟨rfl, forgotten⟩⟩

private theorem get?_run_of_absent {store : FileStore} {path : String} {paths : List String}
    (absent : store.get? path = none) :
    (store.run (paths.map (lookOp workspace.disk policy))).get? path = none := by
  induction paths generalizing store with
  | nil => exact absent
  | cons other rest ih =>
    refine ih ?_
    rw [FileStore.get?_apply, absent]
    unfold lookOp
    split <;> simp [FileStore.Op.onRecord]

/-- A watch pass makes no records. -/
theorem InstanceState.get?_reconcile_of_absent {path : String}
    (absent : state.files.get? path = none) :
    (state.reconcile workspace policy observed).state.files.get? path = none := by
  rw [files_reconcile]
  exact get?_run_of_absent workspace policy absent

/-- A file that a watch pass reports as forgotten has no record afterwards. -/
theorem InstanceState.get?_reconcile_of_untracked {path : String}
    (forgotten : path ∈ (state.reconcile workspace policy observed).report.untracked) :
    (state.reconcile workspace policy observed).state.files.get? path = none := by
  have member := (state.untrack_mem_reconcile_iff workspace policy observed).mpr forgotten
  obtain ⟨looked, seen, isUntrack⟩ := List.mem_map.mp member
  obtain ⟨before, after, split⟩ := List.append_of_mem seen
  rw [files_reconcile, split, List.map_append, List.map_cons, isUntrack, FileStore.run_append,
    FileStore.run_cons]
  apply get?_run_of_absent
  rw [FileStore.get?_apply]
  simp [FileStore.Op.onRecord]

end Reconcile

end ScriptLoader
