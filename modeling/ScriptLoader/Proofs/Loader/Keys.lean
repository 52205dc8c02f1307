import ScriptLoader.Proofs.Instance.Keys
import ScriptLoader.Proofs.Loader.Stamps

/-!
# One key for each file

A path comes to an instance in any spelling: in a request, possibly with a suffix to be
added, in what a compiler asks its host or tells it, and in what a watch pass observed. All
that an instance holds of it is its normal form, and the record of a file stands under its own
path. So a file has one record, one mark and one place in the graph, however it was spelled.
The calls of a history may come from different directories, as long as these are absolute.
-/

namespace ScriptLoader

/-- The directory that a call is made from, if it depends on one, is absolute. -/
def LoaderCall.IsAbsolute : LoaderCall → Prop
  | .compile workspace .. => workspace.IsAbsolute
  | .watch workspace _ => workspace.IsAbsolute
  | .takeModified _ => True

/-- The record of a file stands under its own path, and every path that is held is its own
normal form, seen from any directory. -/
structure InstanceState.HasOneKeyPerFile (state : InstanceState) : Prop where
  record_path : ∀ path record, state.files.get? path = some record → record.path = path
  tracked : ∀ directory path, state.files.contains path = true →
    Path.normalize directory path = path
  modified : ∀ directory path, state.files.isModified path = true →
    Path.normalize directory path = path
  dependant : ∀ directory file, state.graph.contains file = true →
    Path.normalize directory file = file
  dependency : ∀ directory file dependency, dependency ∈ state.graph.dependenciesOf file →
    Path.normalize directory dependency = dependency

/-- A state of proper records that holds normal forms has one key for each file. -/
theorem InstanceState.Within.hasOneKeyPerFile {state : InstanceState}
    (within : state.Within Path.IsNormal) (proper : state.files.Proper) :
    state.HasOneKeyPerFile where
  record_path := fun path record known => (proper path record known).ownPath
  tracked := fun directory path tracked => (within.files.keys path tracked).normalize_eq directory
  modified := fun directory path marked => (within.files.marks path marked).normalize_eq directory
  dependant := by
    intro directory file held
    rw [DependencyGraph.contains_eq] at held
    obtain ⟨dependencies, recorded⟩ := Option.isSome_iff_exists.mp held
    exact (within.graph file dependencies recorded).1.normalize_eq directory
  dependency := by
    intro directory file dependency member
    rw [DependencyGraph.dependenciesOf_eq] at member
    cases recorded : state.graph.recorded? file with
    | none => simp [recorded] at member
    | some dependencies =>
      rw [recorded] at member
      exact ((within.graph file dependencies recorded).2 dependency member).normalize_eq directory

/-- A call that is made from an absolute directory brings in normal forms only. -/
theorem Instance.StepBy.within {inst next : Instance} {call : LoaderCall}
    (step : inst.StepBy call next) (absolute : call.IsAbsolute)
    (within : inst.state.Within Path.IsNormal) : next.state.Within Path.IsNormal := by
  cases step with
  | compiled workspace factory compiler session sources request =>
    exact InstanceState.within_emit absolute within inst.options compiler request
  | watched workspace observed =>
    exact InstanceState.within_reconcile within workspace inst.options.watchUnreadable observed
  | drained key => exact InstanceState.within_drain within

namespace Loader

/-- After every history of calls from absolute directories, every instance has one key for
each file. -/
theorem one_key_per_file {calls : List LoaderCall}
    (absolute : ∀ call ∈ calls, call.IsAbsolute) {key : String} {inst : Instance}
    (held : (run ∅ calls).registry.get? key = some inst) : inst.state.HasOneKeyPerFile := by
  have made : ∀ inst : Instance, inst.state = ∅ → inst.state.Within Path.IsNormal := by
    intro inst empty
    rw [empty]
    exact InstanceState.within_empty
  have kept : ∀ call inst next, LoaderCall.IsAbsolute call →
      inst.state.Within Path.IsNormal → Instance.StepBy inst call next →
      next.state.Within Path.IsNormal :=
    fun _ _ _ callAbsolute within step => step.within callAbsolute within
  have within : inst.state.Within Path.IsNormal :=
    run_invariant_of_calls LoaderCall.IsAbsolute made kept keyed_empty (by simp) absolute held
  exact within.hasOneKeyPerFile (files_proper held)

/-- A directory on a drive. -/
def driveWorkspace : Workspace :=
  ⟨"C:\\work", ⟨fun _ => .ok "", fun _ => true⟩⟩

/-- A compiler that spells paths in its own ways. -/
def spellingCompiler : Compiler :=
  ⟨fun path => .call (.read "lib\\..\\b.d.ts") fun _ =>
      .call (.setResolvedModules path ["./b.d.ts", "C:/work//c.ts"]) fun _ =>
        .done (.error (.compiler "")),
    fun _ => .error (.compiler "")⟩

/-- Compiling a component, spelled in some way, as a script. -/
def compileComponent (spelling : String) : LoaderCall :=
  .compile driveWorkspace (fun _ => .ok ()) spellingCompiler ⟨0⟩
    ⟨∅, ⟨(∅ : Json.Members).insert "appendTsSuffixTo" (.string "vue")⟩⟩
    (.plain (.ofString spelling) "")

/-- A component is compiled under two spellings, with a watch pass that observes a third in
between. It has one record. -/
theorem one_key_for_three_spellings :
    ∃ inst, (run ∅ [compileComponent "src\\..\\App.vue",
        .watch driveWorkspace [.ofString "C:/work/./App.vue.ts"],
        compileComponent "C:\\work\\App.vue"]).registry.get? "0_default" = some inst ∧
      inst.state.HasOneKeyPerFile ∧
      inst.state.files.paths = ["C:/work/App.vue.ts", "C:/work/b.d.ts"] := by
  have checked : ((run ∅ [compileComponent "src\\..\\App.vue",
        .watch driveWorkspace [.ofString "C:/work/./App.vue.ts"],
        compileComponent "C:\\work\\App.vue"]).registry.get? "0_default").map
          (·.state.files.paths) = some ["C:/work/App.vue.ts", "C:/work/b.d.ts"] := by
    decide +kernel
  obtain ⟨inst, held, pathsEq⟩ := Option.map_eq_some_iff.mp checked
  have absolute : driveWorkspace.IsAbsolute := by decide
  refine ⟨inst, held, one_key_per_file ?_ held, pathsEq⟩
  simp [compileComponent, LoaderCall.IsAbsolute, absolute]

end Loader

end ScriptLoader
