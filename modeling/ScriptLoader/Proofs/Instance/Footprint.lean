import ScriptLoader.Proofs.FileStore.Frame
import ScriptLoader.Proofs.Instance.Edges
import ScriptLoader.Proofs.Instance.Result

/-!
# What a compilation leaves behind

A compilation supplies its own file. Whatever its compiler asks for, and however it ends, no
other file that has a record is touched, and files that are read for the first time get their
text on disk at version 0. That a reading touches no record rests on `Reached`: the records
of a state that compilations, watch passes and drains lead to hold content.
-/

namespace ScriptLoader

/-- The states that compilations, watch passes and drains lead to, in any order and with any
compilers, disks, options and policies. -/
inductive InstanceState.Reached : InstanceState → Prop where
  | created : Reached ∅
  | compiled {state : InstanceState} (before : Reached state) (workspace : Workspace)
      (options : LoaderOptions) (compiler : Compiler) (request : EmitRequest) :
      Reached (request.emit workspace options compiler state).state
  | watched {state : InstanceState} (before : Reached state) (workspace : Workspace)
      (policy : UnreadablePolicy) (observed : List RawPath) :
      Reached (state.reconcile workspace policy observed).state
  | drained {state : InstanceState} (before : Reached state) :
      Reached { state with files := state.files.drain }

/-- Every record of a state that was reached stands under its path and holds content. -/
theorem InstanceState.Reached.proper {state : InstanceState} (reached : state.Reached) :
    state.files.Proper := by
  induction reached with
  | created => exact FileStore.empty_proper
  | compiled _ workspace options compiler request ih =>
    rw [EmitRequest.files_emit]
    exact ih.run _
  | watched _ workspace policy observed ih =>
    rw [files_reconcile]
    exact ih.run _
  | drained _ ih => exact ih.apply .drain

/-- What the outcome of a compilation has to do with the state before. -/
structure EmitRequest.Footprint (workspace : Workspace) (options : LoaderOptions)
    (request : EmitRequest) (before : InstanceState) (outcome : EmitOutcome) : Prop where
  /-- The compiled file has the record that supplying its content gives. -/
  own_record : outcome.state.files.get? (request.path workspace options) =
    (before.files.update (request.path workspace options) request.content).get?
      (request.path workspace options)
  /-- Every other record stays. -/
  other_records : ∀ path record, path ≠ request.path workspace options →
    before.files.get? path = some record → outcome.state.files.get? path = some record
  /-- A file has a new record if the compiler read it and the disk has a text for it, which
  the record holds at version 0. -/
  new_record_iff : ∀ path record, path ≠ request.path workspace options →
    before.files.get? path = none →
    (outcome.state.files.get? path = some record ↔
      path ∈ outcome.call.reads workspace ∧
        ∃ text, workspace.disk.read path = .ok text ∧ record = ⟨path, 0, some text⟩)
  /-- Changes are counted and marked for the supplied content only. -/
  programVersion_eq : outcome.state.files.programVersion =
    (before.files.update (request.path workspace options) request.content).programVersion
  modified_eq : outcome.state.files.modified =
    (before.files.update (request.path workspace options) request.content).modified
  /-- A file that is transformed on its own brings no other record and no dependencies. -/
  transpiled : options.transpileOnly = true →
    (∀ path, path ≠ request.path workspace options →
      outcome.state.files.get? path = before.files.get? path) ∧
    outcome.state.graph = before.graph

namespace EmitRequest

variable {workspace : Workspace} {options : LoaderOptions} {compiler : Compiler}
  {state : InstanceState} {request : EmitRequest}

/-- Where a file is transformed on its own, its content is supplied and nothing else is done. -/
theorem state_emit_of_transpileOnly (alone : options.transpileOnly = true) :
    (request.emit workspace options compiler state).state =
      { state with
        files := state.files.update (request.path workspace options) request.content } := by
  simp only [emit, alone, if_true]

/-- After a compilation, a path has the record that its compiler's readings leave. -/
theorem get?_emit_of_other (compiler : Compiler) (state : InstanceState) {path : String}
    (other : path ≠ request.path workspace options) :
    (request.emit workspace options compiler state).state.files.get? path =
      ((state.files.update (request.path workspace options) request.content).run
        (((request.emit workspace options compiler state).call.reads workspace).map
          (.track workspace.disk))).get? path ∧
    (state.files.update (request.path workspace options) request.content).get? path =
      state.files.get? path := by
  refine ⟨?_, ?_⟩
  · rw [files_emit]
    rfl
  · rw [FileStore.get?_update, if_neg other.symm]

end EmitRequest

/-- A compilation in a state that was reached touches its own file only, whatever its
compiler does and whether or not there is a result. -/
theorem InstanceState.Reached.footprint_emit {state : InstanceState} (reached : state.Reached)
    (workspace : Workspace) (options : LoaderOptions) (compiler : Compiler)
    (request : EmitRequest) :
    request.Footprint workspace options state
      (request.emit workspace options compiler state) where
  own_record := by
    rw [EmitRequest.get?_emit, FileStore.get?_update, if_pos rfl]
  other_records := by
    intro path record other known
    obtain ⟨afterEq, suppliedEq⟩ := EmitRequest.get?_emit_of_other compiler state other
    rw [afterEq]
    exact FileStore.get?_run_track (suppliedEq.trans known)
      (reached.proper path record known).filled _ _
  new_record_iff := by
    intro path record other absent
    obtain ⟨afterEq, suppliedEq⟩ := EmitRequest.get?_emit_of_other compiler state other
    rw [afterEq, FileStore.get?_run_track_of_absent (suppliedEq.trans absent)]
    split
    · next asked =>
      cases read : workspace.disk.read path with
      | error cause => simp [Except.toOption]
      | ok text => simp [Except.toOption, FileRecord.holding, asked, eq_comm]
    · next unasked => simp [unasked]
  programVersion_eq := by
    rw [EmitRequest.files_emit]
    exact (FileStore.frame_run_track _ _ _).2
  modified_eq := by
    rw [EmitRequest.files_emit]
    exact (FileStore.frame_run_track _ _ _).1
  transpiled := by
    intro alone
    rw [EmitRequest.state_emit_of_transpileOnly alone]
    refine ⟨?_, rfl⟩
    intro path other
    exact (FileStore.get?_update ..).trans (if_neg other.symm)

/-- A directory in which every file has the same text. -/
def uniformWorkspace (text : String) : Workspace :=
  ⟨"/", ⟨fun _ => .ok text, fun _ => true⟩⟩

/-- A compiler that reads files and gives up. -/
def readingCompiler (paths : List String) : Compiler :=
  ⟨fun _ => paths.foldr (fun path next => .call (.read path) fun _ => next)
    (.done (.error (.compiler ""))), fun _ => .error (.compiler "")⟩

/-- The state after a file was compiled and another one was read. -/
def stateAfterReading : InstanceState :=
  ((EmitRequest.plain (.ofString "/a.ts") "one").emit (uniformWorkspace "old") (.defaults "")
    (readingCompiler ["/lib.d.ts"]) ∅).state

/-- A file is compiled anew after all texts on disk have changed. The compiler reads a known
file and an unknown one: the first keeps its text, the second gets the new one. -/
theorem InstanceState.footprint_of_second_compilation :
    stateAfterReading.Reached ∧
      (EmitRequest.plain (.ofString "/a.ts") "two").Footprint (uniformWorkspace "new")
        (.defaults "") stateAfterReading
        ((EmitRequest.plain (.ofString "/a.ts") "two").emit (uniformWorkspace "new")
          (.defaults "") (readingCompiler ["/lib.d.ts", "/more/../b.d.ts"]) stateAfterReading) ∧
      ((EmitRequest.plain (.ofString "/a.ts") "two").emit (uniformWorkspace "new")
        (.defaults "") (readingCompiler ["/lib.d.ts", "/more/../b.d.ts"])
          stateAfterReading).state.files.all =
        [⟨"/a.ts", 2, some "two"⟩, ⟨"/b.d.ts", 0, some "new"⟩, ⟨"/lib.d.ts", 0, some "old"⟩] := by
  have reached : stateAfterReading.Reached := .compiled .created ..
  exact ⟨reached, reached.footprint_emit .., by decide +kernel⟩

end ScriptLoader
