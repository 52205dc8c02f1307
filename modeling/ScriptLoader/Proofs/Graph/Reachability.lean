import Mathlib.Data.List.Nodup
import ScriptLoader.Proofs.Graph.Walk

/-!
# What a file depends on

`DependsOn` is the relation that a graph records, and `Reaches` its reflexive and transitive
closure. The list of all dependencies of a file is exactly what the file reaches, each file
once and after one that depends on it, however many circles the graph has.
-/

namespace ScriptLoader.DependencyGraph

/-- A file has a recorded dependency. -/
def DependsOn (graph : DependencyGraph) (file dependency : String) : Prop :=
  dependency ∈ graph.dependenciesOf file

/-- A file depends on another one in any number of steps, none included. -/
def Reaches (graph : DependencyGraph) : String → String → Prop :=
  Relation.ReflTransGen graph.DependsOn

/-- The closure of a file has the files that can be reached from it. -/
theorem mem_allDependencies_iff (graph : DependencyGraph) (start file : String) :
    file ∈ graph.allDependencies start ↔ graph.Reaches start file :=
  Closure.mem_collect_iff graph.edges start file

/-- The walk from a file along its dependencies comes to an end, and the list of its finds,
which is that of all dependencies, starts with the file, has no repetitions, holds exactly
what the file reaches, and has every other find after one that directly depends on it. -/
theorem allDependencies_exact (graph : DependencyGraph) (start : String) :
    (∃ last : Closure.Walk, (Closure.Walk.start start).Ends graph.dependenciesOf last ∧
      graph.allDependencies start = last.found.reverse) ∧
    (graph.allDependencies start).head? = some start ∧
    (graph.allDependencies start).Nodup ∧
    (∀ file, file ∈ graph.allDependencies start ↔ graph.Reaches start file) ∧
    ∀ earlier file later, graph.allDependencies start = earlier ++ file :: later →
      file = start ∨ ∃ source ∈ earlier, graph.DependsOn source file := by
  obtain ⟨last, ends, sound, nothing, eq⟩ :=
    Closure.exists_ends_of_collect graph.edges start
  change graph.allDependencies start = last.found.reverse at eq
  refine ⟨⟨last, ends, eq⟩, ?_, ?_, graph.mem_allDependencies_iff start, ?_⟩
  · rw [eq, List.head?_reverse]
    exact sound.discovery.getLast?_eq
  · rw [eq]
    exact List.nodup_reverse.mpr sound.discovery.nodup
  · intro earlier file later split
    have reversed : last.found = later.reverse ++ file :: earlier.reverse := by
      rw [← last.found.reverse_reverse, ← eq, split]
      simp
    rcases sound.discovery.exists_earlier reversed with isStart | ⟨source, member, edge⟩
    · exact .inl isStart
    · exact .inr ⟨source, List.mem_reverse.mp member, edge⟩

/-- A circle with a way out and a file that depends on itself. -/
example :
    ((∅ : DependencyGraph).run [.set "a" ["b", "c"], .add "b" "a", .add "c" "c"]).allDependencies
      "a" = ["a", "b", "c"] := by
  decide +kernel

end ScriptLoader.DependencyGraph
