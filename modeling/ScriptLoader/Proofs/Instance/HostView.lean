import ScriptLoader.Proofs.Instance.Footprint
import ScriptLoader.Proofs.Instance.Keys

/-!
# What a compiler sees of the file it compiles

A build tool supplies a content for a path in some spelling, and a compiler is handed the
normal form of the path, perhaps with a suffix. `View` says that the two meet: at every moment
of its run the compiler finds the supplied content under the path that it was handed, at the
version that the result reports, and what it resolves for this path comes back as
dependencies of the result. `HostProgram.moments` are the states that the host is in; the
questions that a compiler could ask are taken at all of them, whether or not it does.
-/

namespace ScriptLoader

namespace HostProgram

variable {α : Type} (workspace : Workspace) (options : LoaderOptions)

/-- The states that a host is in while a program runs: before each call, and at the end. -/
def moments : HostProgram α → InstanceState → List InstanceState
  | .done _, state => [state]
  | .call asked next, state =>
    let step := state.answer workspace options asked
    state :: (next step.answer).moments step.state

variable {workspace options}

/-- What answering a call keeps, holds at every moment. -/
theorem forall_moments {Holds : InstanceState → Prop}
    (kept : ∀ state asked, Holds state → Holds (state.answer workspace options asked).state)
    (program : HostProgram α) {state : InstanceState} (holds : Holds state) :
    ∀ moment ∈ program.moments workspace options state, Holds moment := by
  induction program generalizing state with
  | done result => simpa [moments] using holds
  | call asked next ih =>
    simp only [moments, List.forall_mem_cons]
    exact ⟨holds, ih _ (kept state asked holds)⟩

/-- The answers that a program gets are given at some moment. -/
theorem exists_moment_of_mem_answers {program : HostProgram α} {state : InstanceState}
    {asked : HostCall} {answer : HostAnswer}
    (given : (asked, answer) ∈ (program.run workspace options state).answers) :
    ∃ moment ∈ program.moments workspace options state,
      (moment.answer workspace options asked).answer = answer := by
  induction program generalizing state with
  | done result => cases given
  | call first next ih =>
    rcases List.mem_cons.mp given with now | later
    · cases now
      exact ⟨state, List.mem_cons_self .., rfl⟩
    · obtain ⟨moment, within, answerEq⟩ := ih _ later
      exact ⟨moment, List.mem_cons_of_mem _ within, answerEq⟩

end HostProgram

/-- A host that is asked in a state shows a file with a content and a version. -/
structure InstanceState.Shows (workspace : Workspace) (options : LoaderOptions)
    (path content : String) (version : Nat) (state : InstanceState) : Prop where
  read : (state.answer workspace options (.read path)).answer = .content (some content)
  scriptVersion :
    (state.answer workspace options (.scriptVersion path)).answer = .version (some version)

/-- A host shows what is recorded, under the normal form of a path. -/
theorem InstanceState.shows_of_get? {workspace : Workspace} {options : LoaderOptions}
    {state : InstanceState} {path content : String} {record : FileRecord}
    (ownForm : workspace.normalize path = path) (known : state.files.get? path = some record)
    (holds : record.content = some content) :
    state.Shows workspace options path content record.version where
  read := by
    have contentEq : state.files.contentOf? path = some content := by
      rw [FileStore.contentOf?, known]
      exact holds
    simp only [answer, InstanceState.read, ownForm, contentEq]
  scriptVersion := by
    simp only [answer, ownForm, FileStore.versionOf?, known, Option.map_some]

/-- A call tells the modules that a file resolves to. -/
def HostCall.Resolves (workspace : Workspace) (path : String) : HostCall → Prop
  | .setResolvedModules file _ => workspace.normalize file = path
  | _ => False

/-- A call that does not tell the modules of a file may add to its dependencies, but it does
not set them anew and removes no file. -/
theorem HostCall.changes_of_not_resolves {workspace : Workspace} {path : String}
    {asked : HostCall} (unresolved : ¬ asked.Resolves workspace path) {op : DependencyGraph.Op}
    (change : op ∈ asked.changes workspace) :
    (∀ dependencies, op ≠ .set path dependencies) ∧ ∀ target, op ≠ .remove target := by
  cases asked with
  | setResolvedModules file modules =>
    obtain rfl := List.mem_singleton.mp change
    refine ⟨?_, by simp⟩
    rintro dependencies ⟨⟩
    exact unresolved rfl
  | recordDependency file dependency =>
    obtain rfl := List.mem_singleton.mp change
    exact ⟨by simp, by simp⟩
  | _ => cases change

namespace EmitRequest

/-- The states that the host is in while the compiler of a request runs. -/
def moments (workspace : Workspace) (options : LoaderOptions) (compiler : Compiler)
    (state : InstanceState) (request : EmitRequest) : List InstanceState :=
  let path := request.path workspace options
  (compiler.emit path).moments workspace options
    { state with files := state.files.update path request.content }

/-- What the compiler of a request sees of the file that it compiles, and what becomes of
what it tells about this file. -/
structure View (workspace : Workspace) (options : LoaderOptions) (compiler : Compiler)
    (state : InstanceState) (request : EmitRequest) (version : Nat)
    (answers : List (HostCall × HostAnswer)) : Prop where
  /-- The compiler is handed the path of the request. -/
  call : (request.emit workspace options compiler state).call =
    .emit (request.path workspace options) answers
  /-- At every moment the host shows the content of the request at one version. -/
  shown : ∀ moment ∈ request.moments workspace options compiler state,
    moment.Shows workspace options (request.path workspace options) request.content version
  /-- What the compiler asks is answered at these moments. -/
  answered : ∀ asked answer, (asked, answer) ∈ answers →
    ∃ moment ∈ request.moments workspace options compiler state,
      (moment.answer workspace options asked).answer = answer
  /-- A result is about the same path and the same version. -/
  reported : ∀ result, (request.emit workspace options compiler state).result = .ok result →
    result.path = request.path workspace options ∧ result.fileVersion = version
  /-- The modules that the compiler told last for this path are dependencies of a result. -/
  resolved : ∀ result, (request.emit workspace options compiler state).result = .ok result →
    ∀ front file modules answer back,
      answers = front ++ (.setResolvedModules file modules, answer) :: back →
      workspace.normalize file = request.path workspace options →
      (∀ later ∈ back, ¬ later.1.Resolves workspace (request.path workspace options)) →
      ∀ spelling ∈ modules, workspace.normalize spelling ∈ result.dependencies

variable {workspace : Workspace} {options : LoaderOptions} {compiler : Compiler}
  {state : InstanceState} {request : EmitRequest}

/-- The content of a request is shown from before the first call of its compiler on. -/
theorem shows_of_mem_moments (absolute : workspace.IsAbsolute) {moment : InstanceState}
    (within : moment ∈ request.moments workspace options compiler state) :
    moment.Shows workspace options (request.path workspace options) request.content
      (state.files.updatedVersion (request.path workspace options) request.content) := by
  let record := (state.files.recordOf (request.path workspace options)).supplied request.content
  have filled : record.content = some request.content := FileRecord.content_supplied _ _
  -- What is supplied holds content, so no reading of the compiler touches it.
  have kept : ∀ (state : InstanceState) asked,
      state.files.get? (request.path workspace options) = some record →
      (state.answer workspace options asked).state.files.get?
        (request.path workspace options) = some record := by
    intro state asked known
    rw [InstanceState.files_answer]
    exact FileStore.get?_run_track known (by simp [filled]) _ _
  have supplied : (state.files.update (request.path workspace options) request.content).get?
      (request.path workspace options) = some record :=
    (FileStore.get?_update ..).trans (if_pos rfl)
  have known : moment.files.get? (request.path workspace options) = some record :=
    HostProgram.forall_moments kept _ supplied moment within
  have ownForm : workspace.normalize (request.path workspace options) =
      request.path workspace options :=
    (request.isNormal_path absolute options).normalize_eq workspace.directory
  rw [FileStore.updatedVersion_eq]
  exact InstanceState.shows_of_get? ownForm known filled

/-- The modules told last for a file are recorded for it in the end. -/
theorem mem_dependenciesOf_of_last {path : String} {front back : List (HostCall × HostAnswer)}
    {file : String} {modules : List String} {answer : HostAnswer}
    (told : (request.emit workspace options compiler state).call =
      .emit path (front ++ (.setResolvedModules file modules, answer) :: back))
    (same : workspace.normalize file = path)
    (last : ∀ later ∈ back, ¬ later.1.Resolves workspace path) {spelling : String}
    (among : spelling ∈ modules) :
    workspace.normalize spelling ∈
      (request.emit workspace options compiler state).state.graph.dependenciesOf path := by
  -- The graph goes through the changes before the call, that of the call, and those after it.
  rw [graph_emit, told, CompilerCall.changes, List.flatMap_append, List.flatMap_cons,
    DependencyGraph.run_append, DependencyGraph.run_append]
  have recorded : ∀ graph : DependencyGraph, workspace.normalize spelling ∈
      (graph.run (HostCall.changes workspace (.setResolvedModules file modules))).dependenciesOf
        path := by
    intro graph
    rw [HostCall.changes, DependencyGraph.run_cons, DependencyGraph.run_nil,
      DependencyGraph.dependenciesOf_eq, DependencyGraph.recorded?_apply,
      DependencyGraph.Op.onRecorded, if_pos same]
    exact List.mem_eraseDups.mpr (List.mem_map_of_mem among)
  have laterChanges : ∀ op ∈ (CompilerCall.emit path back).changes workspace,
      (∀ dependencies, op ≠ .set path dependencies) ∧ ∀ target, op ≠ .remove target := by
    intro op change
    obtain ⟨later, given, member⟩ := List.mem_flatMap.mp change
    exact HostCall.changes_of_not_resolves (last later given) member
  refine DependencyGraph.mem_dependenciesOf_run (recorded _) ?_ ?_
  · intro dependencies change
    exact (laterChanges _ change).1 dependencies rfl
  · intro target change
    exact (laterChanges _ change).2 target rfl

/-- A compiler in full mode sees the file of a request as the request has it, whatever it asks
its host and whatever is on disk, and in whatever spelling the request names the file. -/
theorem view_of_emit (absolute : workspace.IsAbsolute) (full : options.transpileOnly = false)
    (compiler : Compiler) (state : InstanceState) (request : EmitRequest) :
    ∃ version answers, request.View workspace options compiler state version answers := by
  let path := request.path workspace options
  let supplied : InstanceState :=
    { state with files := state.files.update path request.content }
  have call : (request.emit workspace options compiler state).call =
      .emit path ((compiler.emit path).run workspace options supplied).answers := by
    simp only [emit, full, Bool.false_eq_true, if_false]
    rfl
  refine ⟨state.files.updatedVersion path request.content, _, {
    call
    shown := fun moment within => shows_of_mem_moments absolute within
    answered := fun asked answer given => HostProgram.exists_moment_of_mem_answers given
    reported := ?_
    resolved := ?_ }⟩
  · intro result success
    obtain ⟨pathEq, versionEq, _⟩ := emit_eq_ok success
    exact ⟨pathEq, versionEq⟩
  · intro result success front file modules answer back split same last spelling among
    have told := split ▸ call
    rw [dependencies_of_emit_eq_ok full success, InstanceState.dependenciesOf,
      List.mem_eraseDups]
    exact List.mem_cons_of_mem _
      (List.mem_append_right _ (mem_dependenciesOf_of_last told same last among))

/-- A compiler that reads the file that it is handed and tells twice what it resolves to. -/
def resolvingCompiler (earlier later : List String) : Compiler :=
  ⟨fun path => .call (.setResolvedModules path earlier) fun _ => .call (.read path) fun _ =>
      .call (.setResolvedModules path later) fun _ => .done (.ok ⟨[⟨"a.js", ""⟩], []⟩),
    fun _ => .error (.compiler "")⟩

/-- A file is named by a relative path with backslashes, and the disk has another text for
it. -/
theorem view_of_relative_path :
    (uniformWorkspace "old").IsAbsolute ∧ (LoaderOptions.defaults "").transpileOnly = false ∧
      (∃ version answers, (EmitRequest.plain (.ofString "src\\..\\a.ts") "new").View
        (uniformWorkspace "old") (.defaults "") (resolvingCompiler ["b.ts"] ["./c.ts"]) ∅ version
        answers) ∧
      ((EmitRequest.plain (.ofString "src\\..\\a.ts") "new").emit (uniformWorkspace "old")
        (.defaults "") (resolvingCompiler ["b.ts"] ["./c.ts"]) ∅).result.toOption.map
          (fun result => (result.path, result.fileVersion, result.dependencies)) =
        some ("/a.ts", 1, ["/a.ts", "/c.ts"]) := by
  have absolute : (uniformWorkspace "old").IsAbsolute := by decide
  exact ⟨absolute, rfl, view_of_emit absolute rfl .., by decide +kernel⟩

end EmitRequest

end ScriptLoader
