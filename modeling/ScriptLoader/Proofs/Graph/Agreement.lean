import ScriptLoader.Proofs.Graph.Walk

/-!
# Walks in graphs that agree

A walk asks for the neighbours of files that it has found, and what it has found stays found.
So it goes the same way, find by find, wherever the files that it has found at its end have
the same neighbours (`Sound.ends_of_agree`). Since a walk has one end only, the same files are
collected in the same order. So a list of all dependencies is told by what is recorded for the
files in it, and a graph may record anything for other files.
-/

namespace ScriptLoader.Closure

variable {neighbours others : String → List String} {start : String}

namespace Walk

variable {walk last : Walk}

/-- A walk has one end. -/
theorem Ends.unique {other : Walk} (ends : walk.Ends neighbours last)
    (ends' : walk.Ends neighbours other) : last = other := by
  induction ends with
  | idle nothing =>
    cases ends' with
    | idle _ => rfl
    | look next _ =>
      rw [nothing] at next
      cases next
  | look next _ ih =>
    cases ends' with
    | idle nothing =>
      rw [nothing] at next
      cases next
    | look next' rest =>
      obtain ⟨rfl, rfl⟩ := List.cons.inj (next.symm.trans next')
      exact ih rest

/-- What was found at any time is found at the end. -/
theorem Sound.found_subset_of_ends (sound : walk.Sound neighbours start)
    (ends : walk.Ends neighbours last) : walk.found ⊆ last.found := by
  induction ends with
  | idle _ => exact List.Subset.refl _
  | look next _ ih =>
    obtain ⟨_, grows, _⟩ := sound.lookAt_grows next
    exact List.Subset.trans grows.found_subset (ih (sound.lookAt next))

/-- A walk ends alike wherever all that it finds has the same neighbours. -/
theorem Sound.ends_of_agree (sound : walk.Sound neighbours start)
    (ends : walk.Ends neighbours last)
    (agree : ∀ file ∈ last.found, neighbours file = others file) : walk.Ends others last := by
  induction ends with
  | idle nothing => exact .idle nothing
  | @look walk last file pending next rest ih =>
    have known : file ∈ walk.found := sound.pending_subset (next ▸ List.mem_cons_self)
    have same := agree file (sound.found_subset_of_ends (.look next rest) known)
    refine .look next ?_
    rw [← same]
    exact ih (sound.lookAt next) agree

end Walk

/-- The same files are collected, in the same order, along edges that agree on all of them. -/
theorem collect_eq_of_agree (edges other : Std.ExtTreeMap String (List String) compare)
    (start : String)
    (agree : ∀ file ∈ collect (edgeCount edges) (edges.getD · []) start,
      edges.getD file [] = other.getD file []) :
    collect (edgeCount edges) (edges.getD · []) start =
      collect (edgeCount other) (other.getD · []) start := by
  obtain ⟨last, ends, _, _, eq⟩ := exists_ends_of_collect edges start
  obtain ⟨last', ends', _, _, eq'⟩ := exists_ends_of_collect other start
  have along : (Walk.start start).Ends (other.getD · []) last := by
    refine (Walk.sound_start (edges.getD · []) start).ends_of_agree ends ?_
    intro file found
    refine agree file ?_
    rwa [eq, List.mem_reverse]
  rw [eq, eq', along.unique ends']

end ScriptLoader.Closure

namespace ScriptLoader.DependencyGraph

/-- Two graphs that record the same for each of the dependencies of a file in one of them, direct
or not, have the same list of all its dependencies, in the same order. -/
theorem allDependencies_eq_of_agree {graph other : DependencyGraph} {start : String}
    (agree : ∀ file ∈ graph.allDependencies start,
      graph.dependenciesOf file = other.dependenciesOf file) :
    graph.allDependencies start = other.allDependencies start :=
  Closure.collect_eq_of_agree graph.edges other.edges start agree

/-- A circle of two files, one of which also depends on itself and the other on a third file. -/
def circle : DependencyGraph :=
  (∅ : DependencyGraph).run [.set "a" ["c", "b"], .set "b" ["a", "b"]]

/-- The same circle, recorded in another way, and another circle with a way to it. -/
def circleAmongOthers : DependencyGraph :=
  (∅ : DependencyGraph).run
    [.set "d" ["a", "e"], .add "e" "d", .set "b" ["a", "b"], .add "a" "c", .add "a" "b"]

/-- What leads to a circle does not change what is found in it. -/
theorem allDependencies_of_circle :
    (∀ file ∈ circle.allDependencies "a",
      circle.dependenciesOf file = circleAmongOthers.dependenciesOf file) ∧
    circle.allDependencies "a" = circleAmongOthers.allDependencies "a" := by
  have agree : ∀ file ∈ circle.allDependencies "a",
      circle.dependenciesOf file = circleAmongOthers.dependenciesOf file := by
    decide +kernel
  exact ⟨agree, allDependencies_eq_of_agree agree⟩

end ScriptLoader.DependencyGraph
