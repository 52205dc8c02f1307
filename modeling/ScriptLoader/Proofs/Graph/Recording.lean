import Mathlib.Data.List.Nodup
import ScriptLoader.Proofs.Collection
import ScriptLoader.Proofs.Graph.Effect

/-!
# Recording a list, or one dependency after the other

A list is recorded without its repetitions, and a single dependency is recorded unless it is
known. No history of changes therefore lists a dependency twice (`Repeatless`), and on such
graphs one more dependency is the recorded list with it at the end, set again. A whole list
can then be recorded one dependency after the other, whatever it repeats.
-/

namespace ScriptLoader.DependencyGraph

/-- Graphs in which the same is recorded for every file are the same. -/
theorem ext_recorded {first second : DependencyGraph}
    (same : ∀ file, first.recorded? file = second.recorded? file) : first = second := by
  obtain ⟨edges⟩ := first
  obtain ⟨others⟩ := second
  congr 1
  exact Std.ExtTreeMap.ext_getElem? fun {file} => same file

/-- No dependency is recorded twice for a file. -/
def Repeatless (graph : DependencyGraph) : Prop :=
  ∀ file, (graph.dependenciesOf file).Nodup

/-- In the empty graph nothing is recorded twice. -/
theorem repeatless_empty : (∅ : DependencyGraph).Repeatless := by
  intro file
  rw [dependenciesOf_eq]
  exact List.nodup_nil

/-- A list without repetitions stays one whatever the change. -/
theorem Op.nodup_onRecorded (op : Op) (file : String) {known : Option (List String)}
    (nodup : (known.getD []).Nodup) : ((op.onRecorded file known).getD []).Nodup := by
  cases op with
  | set target dependencies =>
    simp only [Op.onRecorded]
    split
    · exact Collection.nodup_eraseDups dependencies
    · exact nodup
  | add target dependency =>
    simp only [Op.onRecorded]
    split
    · rw [Option.getD_some]
      split
      · exact nodup
      · next unknown =>
        refine List.nodup_append.mpr ⟨nodup, List.nodup_singleton dependency, ?_⟩
        rintro other listed _ isNew rfl
        obtain rfl := List.mem_singleton.mp isNew
        exact unknown (List.contains_iff_mem.mpr listed)
    · exact nodup
  | remove target =>
    simp only [Op.onRecorded]
    split
    · exact List.nodup_nil
    · cases known with
      | none => exact List.nodup_nil
      | some dependencies => exact nodup.filter _

/-- No change records a dependency twice. -/
theorem Repeatless.apply {graph : DependencyGraph} (repeatless : graph.Repeatless) (op : Op) :
    (graph.apply op).Repeatless := by
  intro file
  have nodup := repeatless file
  rw [dependenciesOf_eq] at nodup ⊢
  rw [recorded?_apply]
  exact op.nodup_onRecorded file nodup

/-- No history of changes records a dependency twice. -/
theorem Repeatless.run {graph : DependencyGraph} (repeatless : graph.Repeatless)
    (ops : List Op) : (graph.run ops).Repeatless := by
  induction ops generalizing graph with
  | nil => exact repeatless
  | cons op ops ih => exact ih (repeatless.apply op)

/-- Where nothing is listed twice, one more dependency is the list with it at the end, set
again. -/
theorem Repeatless.addDependency_eq {graph : DependencyGraph} (repeatless : graph.Repeatless)
    (file dependency : String) :
    graph.addDependency file dependency =
      graph.setDependencies file (graph.dependenciesOf file ++ [dependency]) := by
  have whole := Collection.eraseDups_eq_self (repeatless file)
  simp only [addDependency, setDependencies, Collection.eraseDups_concat, whole,
    List.contains_iff_mem]

/-- One more dependency after a list was set is the longer list, set at once. -/
theorem addDependency_setDependencies (graph : DependencyGraph) (file dependency : String)
    (dependencies : List String) :
    (graph.setDependencies file dependencies).addDependency file dependency =
      graph.setDependencies file (dependencies ++ [dependency]) := by
  refine ext_recorded fun other => ?_
  rw [recorded?_addDependency, recorded?_setDependencies, recorded?_setDependencies]
  split
  · simp only [Option.getD_some, Collection.eraseDups_concat, List.contains_iff_mem,
      List.mem_eraseDups]
  · rfl

/-- A list is set by forgetting the old one and adding one dependency after the other. -/
theorem setDependencies_eq_run (graph : DependencyGraph) (file : String)
    (dependencies : List String) :
    graph.setDependencies file dependencies =
      (graph.setDependencies file []).run (dependencies.map (.add file)) := by
  induction dependencies using List.reverseRecOn with
  | nil => rfl
  | append_singleton dependencies dependency ih =>
    rw [List.map_append, run_append, ← ih, ← addDependency_setDependencies]
    rfl

/-- After every history of changes no list has repetitions, one more dependency is the list
with it at the end, set again, and setting a list is the same as forgetting the old one and
adding its dependencies one after the other. -/
theorem recording_agrees (ops : List Op) (file : String) :
    (∀ other, (((∅ : DependencyGraph).run ops).dependenciesOf other).Nodup) ∧
    (∀ dependency,
      ((∅ : DependencyGraph).run ops).addDependency file dependency =
        ((∅ : DependencyGraph).run ops).setDependencies file
          (((∅ : DependencyGraph).run ops).dependenciesOf file ++ [dependency])) ∧
    ∀ dependencies,
      ((∅ : DependencyGraph).run ops).setDependencies file dependencies =
        (((∅ : DependencyGraph).run ops).setDependencies file []).run
          (dependencies.map (.add file)) := by
  have repeatless := repeatless_empty.run ops
  refine ⟨repeatless, ?_, ?_⟩
  · intro dependency
    exact repeatless.addDependency_eq file dependency
  · intro dependencies
    exact setDependencies_eq_run _ file dependencies

/-- Of equal dependencies the first one stays. -/
example :
    ((∅ : DependencyGraph).setDependencies "a" ["b", "c", "b"]).entries =
      [("a", ["b", "c"])] := by
  decide +kernel

end ScriptLoader.DependencyGraph
