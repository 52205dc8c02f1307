import ScriptLoader.Proofs.Instance.DependencyReport
import ScriptLoader.Proofs.Loader.Stamps

/-!
# Whether the file of a request is watched

A file whose path has one of the patterns is compiled under a name that ends in `.ts`, and no
file need have this name. The dependencies of a result begin with that name. The file that the
build tool read is among them only if the two names are one, or if the program gives another
reason to mention it: it is a declaration file that is tracked, or it is recorded as a
dependency of what was compiled.
-/

namespace ScriptLoader

/-- A path is compiled under its own name if it has none of the patterns. -/
theorem LoaderOptions.compilePath_eq_self_iff {options : LoaderOptions} {path : String} :
    options.compilePath path = path ↔
      ∀ pattern ∈ options.suffixPatterns, pattern.matchesIn path = false := by
  have longer : path ++ ".ts" ≠ path := by
    intro same
    have lengths := congrArg String.length same
    have suffixLength : ".ts".length = 3 := by decide
    rw [String.length_append] at lengths
    omega
  rw [compilePath]
  split
  · next found =>
    obtain ⟨pattern, among, matched⟩ := List.any_eq_true.mp found
    refine iff_of_false longer fun unmatched => ?_
    rw [unmatched pattern among] at matched
    cases matched
  · next unfound =>
    refine iff_of_true rfl fun pattern among => ?_
    rw [← Bool.not_eq_true]
    exact fun matched => unfound (List.any_eq_true.mpr ⟨pattern, among, matched⟩)

/-- What the dependencies of a result tell of the file that was asked for, where `inst` is the
instance that the request leaves. -/
structure EmitResult.ResourceReport (inst : Instance) (resource : String)
    (result : EmitResult) : Prop where
  /-- The name that the file is compiled under comes first, in any mode. -/
  head_eq : result.dependencies.head? = some (inst.options.compilePath resource)
  /-- A file with one of the patterns is among the dependencies only if the program mentions it
  on other grounds. -/
  mem_iff : resource ∈ result.dependencies ↔
    (∀ pattern ∈ inst.options.suffixPatterns, pattern.matchesIn resource = false) ∨
      inst.options.transpileOnly = false ∧
        (inst.state.files.contains resource = true ∧ Path.IsDeclarationName resource ∨
          resource ∈ inst.state.graph.dependenciesOf (inst.options.compilePath resource))

section Emit

variable {workspace : Workspace} {compiler : Compiler} {inst : Instance} {request : EmitRequest}
  {result : EmitResult}

/-- A path is a dependency of a file in its program if it is the file, a tracked declaration
file, or recorded for the file. -/
theorem InstanceState.mem_dependenciesOf_iff {state : InstanceState}
    (proper : state.files.Proper) {file path : String} :
    path ∈ state.dependenciesOf file ↔ path = file ∨
      (state.files.contains path = true ∧ Path.IsDeclarationName path ∨
        path ∈ state.graph.dependenciesOf file) := by
  rw [dependenciesOf, List.mem_eraseDups, proper.map_declarationFiles, List.mem_cons,
    List.mem_append, List.mem_filter, FileStore.mem_paths_iff, Path.isDeclaration_iff]

/-- The instance that a request leaves accounts for what the result tells of its file. -/
theorem Instance.resourceReport_emit (reached : inst.state.Reached)
    (success : (request.emit workspace inst.options compiler inst.state).result = .ok result) :
    result.ResourceReport
      { inst with state := (request.emit workspace inst.options compiler inst.state).state }
      (request.resource.normalize workspace.directory) := by
  have proper := (InstanceState.Reached.compiled reached workspace inst.options compiler
    request).proper
  cases mode : inst.options.transpileOnly with
  | true =>
    have alone := EmitRequest.dependencies_of_emit_eq_ok_of_transpileOnly mode success
    refine ⟨congrArg List.head? alone, ?_⟩
    rw [alone, List.mem_singleton, eq_comm, EmitRequest.path,
      LoaderOptions.compilePath_eq_self_iff]
    simp [mode]
  | false =>
    have full := EmitRequest.dependencies_of_emit_eq_ok mode success
    refine ⟨?_, ?_⟩
    · rw [full, InstanceState.dependenciesOf, List.eraseDups_cons]
      rfl
    · rw [full, InstanceState.mem_dependenciesOf_iff proper, eq_comm, EmitRequest.path,
        LoaderOptions.compilePath_eq_self_iff]
      simp [mode]

end Emit

namespace Loader

/-- After every history, a compilation that gives a result reports the name under which the file
was compiled. It reports the file itself exactly if no pattern gave it another name, or its
program mentions it on other grounds. -/
theorem resource_reported_iff {past : List LoaderCall} {workspace : Workspace}
    {factory : CompilerFactory} {compiler : Compiler} {session : BuildSession}
    {sources : OptionSources} {request : EmitRequest} {result : EmitResult}
    (success : ((run ∅ past).compile workspace factory compiler session sources
      request).result = .ok result) :
    ∃ inst, ((run ∅ past).compile workspace factory compiler session sources
        request).loader.registry.get? ((run ∅ past).registry.keyFor session sources) =
          some inst ∧
      result.ResourceReport inst (request.resource.normalize workspace.directory) := by
  rcases compile_cases (keyed_run keyed_empty past) workspace factory compiler session sources
    request with ⟨_, failed, _⟩ | ⟨inst, opens, resultEq, after⟩
  · simp [failed] at success
  · have reached : inst.state.Reached := by
      cases opens with
      | known held => exact reached_run held
      | made _ _ _ => exact .created
    refine ⟨_, (after _).trans (if_pos rfl), ?_⟩
    exact Instance.resourceReport_emit reached (resultEq.symm.trans success)

/-- Options that transform components as scripts, each on its own. -/
def componentSources : OptionSources :=
  ⟨∅, ⟨((∅ : Json.Members).insert "transpileOnly" (.bool true)).insert "appendTsSuffixTo"
    (.string "\\.vue$")⟩⟩

/-- A component is transformed where nothing else is known. -/
def componentOutcome : CompileOutcome :=
  (run ∅ []).compile bareWorkspace (fun _ => .ok ()) scriptCompiler ⟨0⟩ componentSources
    (.plain (.ofString "/src/App.vue") "one")

/-- The build tool is told to watch a script that does not exist, and not the component that
it handed over. -/
theorem component_not_reported :
    ∃ result inst, componentOutcome.result = .ok result ∧
      componentOutcome.loader.registry.get? "0_default" = some inst ∧
      result.ResourceReport inst "/src/App.vue" ∧ result.dependencies = ["/src/App.vue.ts"] := by
  have keyEq : (run ∅ []).registry.keyFor ⟨0⟩ componentSources = "0_default" := by
    decide +kernel
  have normalEq : (RawPath.ofString "/src/App.vue").normalize bareWorkspace.directory =
      "/src/App.vue" := by decide +kernel
  have checked : componentOutcome.result.toOption.map (·.dependencies) =
      some ["/src/App.vue.ts"] := by decide +kernel
  rw [componentOutcome] at checked ⊢
  obtain ⟨result, success, dependenciesEq⟩ := exists_ok_of_map_toOption checked
  obtain ⟨inst, held, report⟩ := resource_reported_iff success
  rw [keyEq] at held
  simp only [EmitRequest.plain, normalEq] at report
  exact ⟨result, inst, success, held, report, dependenciesEq⟩

end Loader

end ScriptLoader
