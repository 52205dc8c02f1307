import Std.Data.ExtTreeMap

/-!
# The dependency graph

Which files a file depends on, as the compiler reported them. Files may depend on each
other in circles. The dependencies of a file are a list without repetitions, in the order
in which they were recorded.
-/

namespace ScriptLoader

/-- The recorded dependencies of files. -/
structure DependencyGraph where
  edges : Std.ExtTreeMap String (List String) compare

namespace DependencyGraph

/-- The graph in which nothing is recorded. -/
def empty : DependencyGraph :=
  ⟨∅⟩

instance : EmptyCollection DependencyGraph := ⟨empty⟩

/-- The dependencies recorded for a file. -/
def dependenciesOf (graph : DependencyGraph) (file : String) : List String :=
  graph.edges.getD file []

/-- Whether anything is recorded for a file, if only that it has no dependencies. -/
def contains (graph : DependencyGraph) (file : String) : Bool :=
  graph.edges.contains file

/-- The number of files for which something is recorded. -/
def size (graph : DependencyGraph) : Nat :=
  graph.edges.size

/-- Every file for which something is recorded, with its dependencies. -/
def entries (graph : DependencyGraph) : List (String × List String) :=
  graph.edges.toList

/-- Records the dependencies of a file in the place of what was recorded for it. Of equal
ones the first counts. -/
def setDependencies (graph : DependencyGraph) (file : String) (dependencies : List String) :
    DependencyGraph :=
  ⟨graph.edges.insert file dependencies.eraseDups⟩

/-- Records one more dependency of a file, unless it is recorded already. -/
def addDependency (graph : DependencyGraph) (file dependency : String) : DependencyGraph :=
  let known := graph.dependenciesOf file
  ⟨graph.edges.insert file
    (if known.contains dependency then known else known ++ [dependency])⟩

/-- Forgets a file, both what is recorded for it and where it is a dependency. -/
def removeFile (graph : DependencyGraph) (file : String) : DependencyGraph :=
  ⟨(graph.edges.erase file).map fun _ dependencies =>
    dependencies.filter (· ≠ file)⟩

/-- A change of the graph. -/
inductive Op where
  | set (file : String) (dependencies : List String)
  | add (file dependency : String)
  | remove (file : String)

/-- The graph after a change. -/
def apply (graph : DependencyGraph) : Op → DependencyGraph
  | .set file dependencies => graph.setDependencies file dependencies
  | .add file dependency => graph.addDependency file dependency
  | .remove file => graph.removeFile file

/-- The graph after a history of changes. -/
def run (graph : DependencyGraph) (ops : List Op) : DependencyGraph :=
  ops.foldl apply graph

end DependencyGraph

end ScriptLoader
