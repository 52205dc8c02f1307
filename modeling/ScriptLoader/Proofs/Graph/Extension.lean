import ScriptLoader.Proofs.Graph.Agreement
import ScriptLoader.Proofs.Graph.Effect
import ScriptLoader.Proofs.Graph.Reachability

/-!
# What can be reached after a dependency was added

A way may use the new edge many times around circles, but what follows its last use is a way
of the old graph from the end of the edge. So the new edge adds what its end reaches to
whatever reaches its start (`reaches_addDependency_iff`). Where its start is out of reach, all
files that are found have the neighbours they had, so not even the order of discovery changes.
-/

namespace ScriptLoader.DependencyGraph

variable (graph : DependencyGraph) (file dependency : String)

/-- A new dependency comes last in the list of its file and changes no other list. -/
theorem dependenciesOf_addDependency (other : String) :
    (graph.addDependency file dependency).dependenciesOf other =
      if file = other ∧ dependency ∉ graph.dependenciesOf file then
        graph.dependenciesOf other ++ [dependency]
      else graph.dependenciesOf other := by
  rw [dependenciesOf_eq, dependenciesOf_eq graph other, dependenciesOf_eq graph file,
    recorded?_addDependency]
  by_cases aimed : file = other
  · subst aimed
    by_cases known : dependency ∈ (graph.recorded? file).getD [] <;> simp [known]
  · simp [aimed]

/-- Adding a dependency adds one edge, if it is not there. -/
theorem dependsOn_addDependency_iff (source target : String) :
    (graph.addDependency file dependency).DependsOn source target ↔
      graph.DependsOn source target ∨ source = file ∧ target = dependency := by
  rw [DependsOn, DependsOn, dependenciesOf_addDependency]
  split
  · next fresh =>
    rw [List.mem_append, List.mem_singleton, eq_comm (a := source)]
    simp [fresh.1]
  · next stale =>
    refine (or_iff_left_of_imp ?_).symm
    rintro ⟨rfl, rfl⟩
    by_contra unknown
    exact stale ⟨rfl, unknown⟩

/-- With one more edge, what its end reaches is reached from wherever its start is. -/
theorem reaches_addDependency_iff (source target : String) :
    (graph.addDependency file dependency).Reaches source target ↔
      graph.Reaches source target ∨
        graph.Reaches source file ∧ graph.Reaches dependency target := by
  have kept : graph.Reaches ≤ (graph.addDependency file dependency).Reaches := by
    refine Relation.ReflTransGen.mono ?_
    intro first second edge
    exact (graph.dependsOn_addDependency_iff file dependency first second).mpr (.inl edge)
  constructor
  · intro reaches
    induction reaches with
    | refl => exact .inl .refl
    | @tail middle next _ edge ih =>
      rcases (graph.dependsOn_addDependency_iff file dependency middle next).mp edge with
        old | ⟨rfl, rfl⟩
      · rcases ih with before | ⟨before, after⟩
        · exact .inl (before.tail old)
        · exact .inr ⟨before, after.tail old⟩
      · -- The new edge is used last, so nothing of the way behind it is left to follow.
        exact .inr ⟨ih.elim id And.left, .refl⟩
  · rintro (old | ⟨before, after⟩)
    · exact kept _ _ old
    · have edge := (graph.dependsOn_addDependency_iff file dependency file dependency).mpr
        (.inr ⟨rfl, rfl⟩)
      exact ((kept _ _ before).tail edge).trans (kept _ _ after)

/-- One more dependency of a file adds what the dependency reaches to all that reach the
file, and nothing else. Where the file is not reached, the list of all dependencies stays as
it is. -/
theorem allDependencies_addDependency (start : String) :
    (∀ target, target ∈ (graph.addDependency file dependency).allDependencies start ↔
      target ∈ graph.allDependencies start ∨
        file ∈ graph.allDependencies start ∧ target ∈ graph.allDependencies dependency) ∧
    (file ∉ graph.allDependencies start →
      (graph.addDependency file dependency).allDependencies start =
        graph.allDependencies start) := by
  constructor
  · intro target
    simp only [mem_allDependencies_iff]
    exact graph.reaches_addDependency_iff file dependency start target
  · intro unreached
    refine (Closure.collect_eq_of_agree graph.edges _ start ?_).symm
    intro other reached
    have apart : file ≠ other := fun same => unreached (same ▸ reached)
    have listed := graph.dependenciesOf_addDependency file dependency other
    rw [if_neg (fun fresh => apart fresh.1)] at listed
    exact listed.symm

/-- A circle is closed where the start does not lead. -/
theorem allDependencies_addDependency_apart :
    "c" ∉ ((∅ : DependencyGraph).run
        [.set "a" ["b"], .set "b" ["c"], .set "d" ["e"]]).allDependencies "d" ∧
      (((∅ : DependencyGraph).run
        [.set "a" ["b"], .set "b" ["c"], .set "d" ["e"]]).addDependency "c" "a").allDependencies
          "d" =
        ((∅ : DependencyGraph).run
          [.set "a" ["b"], .set "b" ["c"], .set "d" ["e"]]).allDependencies "d" := by
  have unreached : "c" ∉ ((∅ : DependencyGraph).run
      [.set "a" ["b"], .set "b" ["c"], .set "d" ["e"]]).allDependencies "d" := by
    decide +kernel
  exact ⟨unreached, (allDependencies_addDependency _ "c" "a" "d").2 unreached⟩

end ScriptLoader.DependencyGraph
