import ScriptLoader.Graph.Basic

/-!
# Changes, one file at a time

What is recorded for a file after a change depends on what was recorded for it before, and
on nothing recorded for other files. `Op.onRecorded` says how, and `recorded?_apply` that the
graph changes in this way at every file. A removal reaches all files, since it takes the
removed file out of every list; the order of what stays is kept.
-/

namespace ScriptLoader.DependencyGraph

/-- What is recorded for a file, if anything is. -/
def recorded? (graph : DependencyGraph) (file : String) : Option (List String) :=
  graph.edges[file]?

/-- A graph contains the files for which dependencies are recorded. -/
theorem contains_eq (graph : DependencyGraph) (file : String) :
    graph.contains file = (graph.recorded? file).isSome :=
  Std.ExtTreeMap.contains_eq_isSome_getElem?

/-- The dependencies of a file are those recorded for it, if any. -/
theorem dependenciesOf_eq (graph : DependencyGraph) (file : String) :
    graph.dependenciesOf file = (graph.recorded? file).getD [] :=
  Std.ExtTreeMap.getD_eq_getD_getElem?

/-- What is recorded for a file after a change; `known` is what was recorded before. -/
def Op.onRecorded (file : String) (known : Option (List String)) : Op → Option (List String)
  | .set target dependencies => if target = file then some dependencies.eraseDups else known
  | .add target dependency =>
    if target = file then
      let known := known.getD []
      some (if known.contains dependency then known else known ++ [dependency])
    else known
  | .remove target =>
    if target = file then none else known.map fun dependencies =>
      dependencies.filter (· ≠ target)

/-- A change acts on what is recorded for each file alone. -/
theorem recorded?_apply (graph : DependencyGraph) (op : Op) (file : String) :
    (graph.apply op).recorded? file = op.onRecorded file (graph.recorded? file) := by
  cases op with
  | set target dependencies =>
    simp [apply, setDependencies, recorded?, Op.onRecorded, Std.ExtTreeMap.getElem?_insert]
  | add target dependency =>
    by_cases aimed : target = file
    · subst aimed
      simp only [apply, addDependency, Op.onRecorded, dependenciesOf_eq, if_true]
      simp [recorded?]
    · simp [apply, addDependency, recorded?, Op.onRecorded, aimed,
        Std.ExtTreeMap.getElem?_insert]
  | remove target =>
    simp only [apply, removeFile, recorded?, Op.onRecorded, Std.ExtTreeMap.getElem?_map,
      Std.ExtTreeMap.getElem?_erase, Std.LawfulEqCmp.compare_eq_iff_eq]
    split <;> rfl

/-- Setting dependencies records them for one file, each once. -/
theorem recorded?_setDependencies (graph : DependencyGraph) (target : String)
    (dependencies : List String) (file : String) :
    (graph.setDependencies target dependencies).recorded? file =
      if target = file then some dependencies.eraseDups else graph.recorded? file :=
  recorded?_apply graph (.set target dependencies) file

/-- Adding a dependency records it behind the others of one file, unless it is there. -/
theorem recorded?_addDependency (graph : DependencyGraph) (target dependency file : String) :
    (graph.addDependency target dependency).recorded? file =
      if target = file then
        some (if ((graph.recorded? file).getD []).contains dependency then
            (graph.recorded? file).getD []
          else (graph.recorded? file).getD [] ++ [dependency])
      else graph.recorded? file :=
  recorded?_apply graph (.add target dependency) file

/-- Removing a file takes it out of the graph and out of all lists. -/
theorem recorded?_removeFile (graph : DependencyGraph) (target file : String) :
    (graph.removeFile target).recorded? file =
      if target = file then none
      else (graph.recorded? file).map fun dependencies => dependencies.filter (· ≠ target) :=
  recorded?_apply graph (.remove target) file

@[simp] theorem run_nil (graph : DependencyGraph) : graph.run [] = graph := rfl

@[simp] theorem run_cons (graph : DependencyGraph) (op : Op) (ops : List Op) :
    graph.run (op :: ops) = (graph.apply op).run ops := rfl

/-- Changes may be cut anywhere. -/
theorem run_append (graph : DependencyGraph) (first second : List Op) :
    graph.run (first ++ second) = (graph.run first).run second :=
  List.foldl_append

/-- Removals take the removed files out of the graph, as files with dependencies and as
dependencies, and nothing else. -/
theorem recorded?_run_remove (graph : DependencyGraph) (removed : List String) (file : String) :
    (graph.run (removed.map .remove)).recorded? file =
      if file ∈ removed then none
      else (graph.recorded? file).map fun dependencies =>
        dependencies.filter (· ∉ removed) := by
  induction removed generalizing graph with
  | nil =>
    have whole : ∀ dependencies : List String,
        dependencies.filter (· ∉ ([] : List String)) = dependencies := by
      intro dependencies
      exact List.filter_eq_self.mpr (by simp)
    simp only [List.map_nil, run_nil, whole, Option.map_id']
    rw [if_neg (by simp)]
  | cons target removed ih =>
    rw [List.map_cons, run_cons, ih, recorded?_apply, Op.onRecorded]
    by_cases aimed : target = file
    · subst aimed
      simp
    · by_cases later : file ∈ removed
      · simp [later]
      · simp only [later, aimed, Ne.symm aimed, List.mem_cons, if_false, or_self, Option.map_map]
        congr 1
        funext dependencies
        simp only [Function.comp, List.filter_filter]
        congr 1
        funext dependency
        simp [Bool.and_comm]

/-- What is recorded for a file stays recorded as long as nothing is set for it and nothing
is removed. -/
theorem mem_dependenciesOf_run {graph : DependencyGraph} {ops : List Op}
    {file dependency : String} (known : dependency ∈ graph.dependenciesOf file)
    (notSet : ∀ dependencies, .set file dependencies ∉ ops)
    (notRemoved : ∀ target, .remove target ∉ ops) :
    dependency ∈ (graph.run ops).dependenciesOf file := by
  induction ops generalizing graph with
  | nil => exact known
  | cons op ops ih =>
    refine ih ?_ (fun dependencies later => notSet dependencies (List.mem_cons_of_mem op later))
      (fun target later => notRemoved target (List.mem_cons_of_mem op later))
    rw [dependenciesOf_eq] at known ⊢
    rw [recorded?_apply]
    cases op with
    | set target dependencies =>
      have other : target ≠ file := by
        rintro rfl
        exact notSet dependencies (List.mem_cons_self ..)
      simpa [Op.onRecorded, other] using known
    | add target added =>
      by_cases aimed : target = file
      · simp only [Op.onRecorded, aimed, if_true, Option.getD_some]
        split
        · exact known
        · exact List.mem_append_left [added] known
      · simpa [Op.onRecorded, aimed] using known
    | remove target => exact absurd (List.mem_cons_self ..) (notRemoved target)

end ScriptLoader.DependencyGraph
