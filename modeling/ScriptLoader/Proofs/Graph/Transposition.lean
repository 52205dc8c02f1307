import ScriptLoader.Proofs.Graph.Reachability

/-!
# Dependencies and dependants

The reversed graph has exactly the edges of the graph, turned around. A file is therefore
among all dependencies of another one exactly if the other one is among all its dependants.
`dependantsOf_ofEntries` says what is noted for a file when entries are enumerated in some
order, before any of it is used.
-/

namespace ScriptLoader

namespace ReverseGraph

/-- Noting a file adds it in front of the dependants of each of its dependencies, as often as
the dependency is listed. -/
theorem getD_note (edges : Std.ExtTreeMap String (List String) compare) (file : String)
    (dependencies : List String) (dependency : String) :
    (note edges (file, dependencies)).getD dependency [] =
      List.replicate (dependencies.count dependency) file ++ edges.getD dependency [] := by
  simp only [note]
  induction dependencies generalizing edges with
  | nil => simp
  | cons head rest ih =>
    rw [List.foldl_cons, ih, Std.ExtTreeMap.getD_insert, List.count_cons]
    by_cases same : head = dependency
    · subst same
      simp [List.replicate_succ', List.append_assoc]
    · simp [same]

/-- The entry that is noted last comes first among the dependants. -/
theorem getD_foldl_note (entries : List (String × List String))
    (edges : Std.ExtTreeMap String (List String) compare) (dependency : String) :
    (entries.foldl note edges).getD dependency [] =
      (entries.reverse.flatMap fun entry =>
        List.replicate (entry.2.count dependency) entry.1) ++ edges.getD dependency [] := by
  induction entries generalizing edges with
  | nil => simp
  | cons entry rest ih =>
    obtain ⟨file, dependencies⟩ := entry
    rw [List.foldl_cons, ih, getD_note, List.reverse_cons, List.flatMap_append]
    simp

/-- The dependants of a file in order: the files of the entries that list it, as often as
they do. -/
theorem dependantsOf_ofEntries (entries : List (String × List String)) (dependency : String) :
    (ofEntries entries).dependantsOf dependency =
      (entries.reverse.flatMap fun entry =>
        List.replicate (entry.2.count dependency) entry.1).mergeSort (fun a b => a ≤ b) := by
  have noted := getD_foldl_note entries ∅ dependency
  rw [Std.ExtTreeMap.getD_empty, List.append_nil] at noted
  unfold dependantsOf ofEntries
  rw [← noted, Std.ExtTreeMap.getD_eq_getD_getElem?, Std.ExtTreeMap.getElem?_map,
    Std.ExtTreeMap.getD_eq_getD_getElem?]
  cases (entries.foldl note ∅)[dependency]? with
  | none => simp
  | some files => rfl

/-- A file is a dependant of another one if an entry of the file lists the other. -/
theorem mem_dependantsOf_ofEntries {entries : List (String × List String)}
    {file dependency : String} :
    file ∈ (ofEntries entries).dependantsOf dependency ↔
      ∃ dependencies, (file, dependencies) ∈ entries ∧ dependency ∈ dependencies := by
  rw [dependantsOf_ofEntries, List.mem_mergeSort, List.mem_flatMap]
  constructor
  · rintro ⟨⟨source, dependencies⟩, member, repeated⟩
    obtain ⟨count, rfl⟩ := List.mem_replicate.mp repeated
    exact ⟨dependencies, List.mem_reverse.mp member,
      List.count_pos_iff.mp (Nat.pos_of_ne_zero count)⟩
  · rintro ⟨dependencies, member, listed⟩
    refine ⟨(file, dependencies), List.mem_reverse.mpr member, ?_⟩
    exact List.mem_replicate.mpr ⟨Nat.ne_of_gt (List.count_pos_iff.mpr listed), rfl⟩

end ReverseGraph

namespace DependencyGraph

/-- Reversing turns every edge around. -/
theorem mem_dependantsOf_reverse {graph : DependencyGraph} {file dependency : String} :
    file ∈ graph.reverse.dependantsOf dependency ↔ graph.DependsOn file dependency := by
  unfold reverse DependsOn dependenciesOf entries
  rw [ReverseGraph.mem_dependantsOf_ofEntries, Std.ExtTreeMap.getD_eq_getD_getElem?]
  simp only [Std.ExtTreeMap.mem_toList_iff_getElem?_eq_some]
  cases graph.edges[file]? with
  | none => simp
  | some dependencies => simp

/-- What depends on a file is what reaches it. -/
theorem mem_allDependants_reverse_iff (graph : DependencyGraph) (start file : String) :
    file ∈ graph.reverse.allDependants start ↔ graph.Reaches file start := by
  have reversed : (fun source next => next ∈ graph.reverse.dependantsOf source) =
      Function.swap graph.DependsOn := by
    funext source next
    exact propext mem_dependantsOf_reverse
  calc file ∈ graph.reverse.allDependants start
      ↔ Relation.ReflTransGen
          (fun source next => next ∈ graph.reverse.dependantsOf source) start file :=
        Closure.mem_collect_iff graph.reverse.edges start file
    _ ↔ Relation.ReflTransGen (Function.swap graph.DependsOn) start file := by rw [reversed]
    _ ↔ graph.Reaches file start := Relation.reflTransGen_swap

/-- A file is among all dependencies of another one exactly if the other one is among all its
dependants in the reversed graph. -/
theorem mem_allDependencies_iff_mem_allDependants (graph : DependencyGraph)
    (source file : String) :
    file ∈ graph.allDependencies source ↔ source ∈ graph.reverse.allDependants file := by
  rw [mem_allDependencies_iff, mem_allDependants_reverse_iff]

end DependencyGraph

end ScriptLoader
