import Std.Data.ExtTreeSet
import ScriptLoader.Graph.Reverse

/-!
# Closures

All files that can be reached from one file along dependencies, or against them, in the
order of their discovery. The file found last is looked at first, and no file is looked at
twice, so circles do no harm.
-/

namespace ScriptLoader.Closure

/-- The state of a walk. -/
structure Walk where
  /-- The files to look at, the next one first. -/
  pending : List String
  /-- The files found so far. -/
  seen : Std.ExtTreeSet String compare
  /-- The files found so far, the last one first. -/
  found : List String

/-- The walk that has found its start. -/
def Walk.start (file : String) : Walk :=
  ⟨[file], (∅ : Std.ExtTreeSet String compare).insert file, [file]⟩

/-- Finds a file, unless it was found before. -/
def Walk.discover (walk : Walk) (file : String) : Walk :=
  if walk.seen.contains file then walk
  else ⟨file :: walk.pending, walk.seen.insert file, file :: walk.found⟩

/-- Looks at pending files, at most `fuel` of them. -/
def Walk.run (neighbours : String → List String) : Nat → Walk → Walk
  | 0, walk => walk
  | fuel + 1, walk =>
    match walk.pending with
    | [] => walk
    | file :: pending =>
      ((neighbours file).foldl Walk.discover { walk with pending }).run neighbours fuel

/-- All files reached from a start, where `edges` is at least the number of all edges: a
file is found along an edge, so no more files than that are looked at after the start. -/
def collect (edges : Nat) (neighbours : String → List String) (start : String) :
    List String :=
  ((Walk.start start).run neighbours (edges + 1)).found.reverse

/-- The number of edges in a map of lists. -/
def edgeCount (edges : Std.ExtTreeMap String (List String) compare) : Nat :=
  edges.values.flatten.length

end ScriptLoader.Closure

namespace ScriptLoader

namespace DependencyGraph

/-- A file and everything it depends on, directly or not. -/
def allDependencies (graph : DependencyGraph) (start : String) : List String :=
  Closure.collect (Closure.edgeCount graph.edges) graph.dependenciesOf start

end DependencyGraph

namespace ReverseGraph

/-- A file and everything that depends on it, directly or not. -/
def allDependants (graph : ReverseGraph) (start : String) : List String :=
  Closure.collect (Closure.edgeCount graph.edges) graph.dependantsOf start

end ReverseGraph

end ScriptLoader
