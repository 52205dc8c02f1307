import ScriptLoader.Proofs.Graph.Effect
import ScriptLoader.Proofs.Graph.Transposition

/-!
# What can be reached after a file was removed

A `Route` is a way along dependencies with every file on it. After a removal the routes from
another file are exactly the old ones that do not touch the removed file
(`route_removeFile_iff`), so what can still be reached is what could be reached around it.
-/

namespace ScriptLoader.DependencyGraph

variable {graph : DependencyGraph} {source target removed : String} {files : List String}

/-- A way from one file to another along dependencies, with the files on it. -/
inductive Route (graph : DependencyGraph) : String → String → List String → Prop where
  | arrived {file : String} : Route graph file file [file]
  | step {file next target : String} {files : List String}
      (edge : graph.DependsOn file next) (rest : Route graph next target files) :
      Route graph file target (file :: files)

/-- A route passes through its source. -/
theorem Route.source_mem (route : graph.Route source target files) : source ∈ files := by
  cases route with
  | arrived => exact List.mem_singleton_self source
  | step _ _ => exact List.mem_cons_self

/-- Where a route leads can be reached. -/
theorem Route.reaches (route : graph.Route source target files) :
    graph.Reaches source target := by
  induction route with
  | arrived => exact .refl
  | step edge _ ih => exact .head edge ih

/-- A file can be reached exactly if there is a route to it. -/
theorem reaches_iff_exists_route :
    graph.Reaches source target ↔ ∃ files, graph.Route source target files := by
  constructor
  · intro reaches
    induction reaches using Relation.ReflTransGen.head_induction_on with
    | refl => exact ⟨[target], .arrived⟩
    | head edge _ ih =>
      obtain ⟨files, route⟩ := ih
      exact ⟨_, .step edge route⟩
  · rintro ⟨files, route⟩
    exact route.reaches

/-- A removal takes away the edges from and to the removed file, and no other ones. -/
theorem dependsOn_removeFile_iff (graph : DependencyGraph) (removed file dependency : String) :
    (graph.removeFile removed).DependsOn file dependency ↔
      graph.DependsOn file dependency ∧ file ≠ removed ∧ dependency ≠ removed := by
  rw [DependsOn, DependsOn, dependenciesOf_eq, dependenciesOf_eq, recorded?_removeFile]
  by_cases aimed : removed = file
  · simp [aimed]
  · cases graph.recorded? file with
    | none => simp
    | some dependencies => simp [aimed, Ne.symm aimed]

/-- After a removal, the routes from another file are the old ones around the removed file. -/
theorem route_removeFile_iff (away : source ≠ removed) :
    (graph.removeFile removed).Route source target files ↔
      graph.Route source target files ∧ removed ∉ files := by
  -- Every file of a route after its source ends an edge, so `away` is kept along the route.
  constructor
  · intro route
    induction route with
    | arrived => exact ⟨.arrived, by simpa using away.symm⟩
    | @step file next target files edge _ ih =>
      obtain ⟨old, _, nextAway⟩ := (dependsOn_removeFile_iff graph removed file next).mp edge
      obtain ⟨route, around⟩ := ih nextAway
      refine ⟨.step old route, ?_⟩
      rw [List.mem_cons, not_or]
      exact ⟨away.symm, around⟩
  · rintro ⟨route, around⟩
    induction route with
    | arrived => exact .arrived
    | @step file next target files edge rest ih =>
      rw [List.mem_cons, not_or] at around
      have nextAway : next ≠ removed := fun same => around.2 (same ▸ rest.source_mem)
      have kept := (dependsOn_removeFile_iff graph removed file next).mpr ⟨edge, away, nextAway⟩
      exact .step kept (ih nextAway around.2)

/-- After a removal, a file can be reached from another one exactly if a route avoids what was
removed. -/
theorem reaches_removeFile_iff (away : source ≠ removed) :
    (graph.removeFile removed).Reaches source target ↔
      ∃ files, graph.Route source target files ∧ removed ∉ files := by
  rw [reaches_iff_exists_route]
  exact exists_congr fun files => route_removeFile_iff away

/-- A removed file cannot be reached from others. -/
theorem not_reaches_removed (away : source ≠ removed) :
    ¬(graph.removeFile removed).Reaches source removed := by
  intro reaches
  rcases reaches.cases_tail with same | ⟨file, _, edge⟩
  · exact away same.symm
  · exact ((dependsOn_removeFile_iff graph removed file removed).mp edge).2.2 rfl

/-- No other file can be reached from a removed one. -/
theorem not_reaches_of_removed (away : target ≠ removed) :
    ¬(graph.removeFile removed).Reaches removed target := by
  intro reaches
  rcases reaches.cases_head with same | ⟨file, edge, _⟩
  · exact away same.symm
  · exact ((dependsOn_removeFile_iff graph removed removed file).mp edge).2.1 rfl

/-- What a removal leaves of a graph. -/
structure Removal (graph : DependencyGraph) (removed : String) (later : DependencyGraph) :
    Prop where
  /-- What can be reached from another file is what could be reached around the removed one. -/
  reached_iff : ∀ source target, source ≠ removed →
    (target ∈ later.allDependencies source ↔
      ∃ files, graph.Route source target files ∧ removed ∉ files)
  /-- The lists of the other files keep their order. -/
  recorded_eq : ∀ file, file ≠ removed →
    later.recorded? file = (graph.recorded? file).map fun dependencies =>
      dependencies.filter (· ≠ removed)
  not_contains : later.contains removed = false
  no_dependencies : later.dependenciesOf removed = []
  no_dependants : later.reverse.dependantsOf removed = []
  notMem_allDependencies : ∀ file, file ≠ removed → removed ∉ later.allDependencies file
  notMem_allDependants : ∀ file, file ≠ removed → removed ∉ later.reverse.allDependants file

/-- Removing a file cuts exactly the ways through it. -/
theorem removeFile_cuts (graph : DependencyGraph) (removed : String) :
    graph.Removal removed (graph.removeFile removed) where
  reached_iff := by
    intro source target away
    rw [mem_allDependencies_iff]
    exact reaches_removeFile_iff away
  recorded_eq := by
    intro file away
    rw [recorded?_removeFile, if_neg away.symm]
  not_contains := by
    rw [contains_eq, recorded?_removeFile, if_pos rfl]
    rfl
  no_dependencies := by
    rw [dependenciesOf_eq, recorded?_removeFile, if_pos rfl]
    rfl
  no_dependants := by
    refine List.eq_nil_iff_forall_not_mem.mpr fun file member => ?_
    have edge := mem_dependantsOf_reverse.mp member
    exact ((dependsOn_removeFile_iff graph removed file removed).mp edge).2.2 rfl
  notMem_allDependencies := by
    intro file away member
    exact not_reaches_removed away ((mem_allDependencies_iff _ _ _).mp member)
  notMem_allDependants := by
    intro file away member
    exact not_reaches_of_removed away ((mem_allDependants_reverse_iff _ _ _).mp member)

/-- Of two ways to a file, the one around the removed file is left. -/
example :
    (((∅ : DependencyGraph).run
      [.set "a" ["b", "c"], .set "b" ["d", "e"], .set "c" ["a", "d"]]).removeFile
        "b").allDependencies "a" = ["a", "c", "d"] := by
  decide +kernel

end ScriptLoader.DependencyGraph
