import ScriptLoader.Graph.Basic

/-!
# The reversed graph

Which files depend on a file. The dependants of a file are in order, whatever order the
graph was enumerated in.
-/

namespace ScriptLoader

/-- The files that depend on each file. -/
structure ReverseGraph where
  edges : Std.ExtTreeMap String (List String) compare

namespace ReverseGraph

/-- The dependants of a file. -/
def dependantsOf (graph : ReverseGraph) (file : String) : List String :=
  graph.edges.getD file []

/-- Notes a dependant for each of the dependencies of a file. -/
def note (edges : Std.ExtTreeMap String (List String) compare) :
    String × List String → Std.ExtTreeMap String (List String) compare
  | (file, dependencies) =>
    dependencies.foldl (fun edges dependency =>
      edges.insert dependency (file :: edges.getD dependency [])) edges

/-- The reversed graph of enumerated entries. -/
def ofEntries (entries : List (String × List String)) : ReverseGraph :=
  ⟨(entries.foldl note ∅).map fun _ dependants =>
    dependants.mergeSort (fun a b => a ≤ b)⟩

end ReverseGraph

/-- The graph with every edge reversed. -/
def DependencyGraph.reverse (graph : DependencyGraph) : ReverseGraph :=
  .ofEntries graph.entries

end ScriptLoader
