import Mathlib.Data.List.Nodup
import ScriptLoader.Proofs.Graph.Recording
import ScriptLoader.Proofs.Graph.Transposition

/-!
# The reversed graph, whatever the order of the files

A graph has no order of its files, so its entries may be enumerated in any. What is noted for
a file comes in the order of the enumeration and is sorted afterwards, and the same texts are
sorted into the same list (`mergeSort_eq_of_perm`). A reversed graph holds no empty list, so
its lists say all about it (`ext_dependantsOf`), and every enumeration gives the same one.

A dependant is noted as often as it lists the file. That is once, because no history of
changes makes a graph list a file twice.
-/

namespace ScriptLoader

namespace ReverseGraph

/-- Every file that has a list of dependants has a dependant. -/
def Filled (edges : Std.ExtTreeMap String (List String) compare) : Prop :=
  ∀ file : String, edges[file]? ≠ some []

/-- Noting an entry lists no file without dependants. -/
theorem Filled.note {edges : Std.ExtTreeMap String (List String) compare}
    (filled : Filled edges) (entry : String × List String) :
    Filled (ReverseGraph.note edges entry) := by
  obtain ⟨file, dependencies⟩ := entry
  simp only [ReverseGraph.note]
  induction dependencies generalizing edges with
  | nil => exact filled
  | cons dependency dependencies ih =>
    refine ih ?_
    intro other
    rw [Std.ExtTreeMap.getElem?_insert]
    split
    · simp
    · exact filled other

/-- Noting entries lists no file without dependants. -/
theorem filled_foldl_note {edges : Std.ExtTreeMap String (List String) compare}
    (filled : Filled edges) (entries : List (String × List String)) :
    Filled (entries.foldl ReverseGraph.note edges) := by
  induction entries generalizing edges with
  | nil => exact filled
  | cons entry entries ih => exact ih (filled.note entry)

/-- A reversed graph lists no file without dependants. -/
theorem filled_ofEntries (entries : List (String × List String)) :
    Filled (ofEntries entries).edges := by
  have empty : Filled ∅ := by
    intro file
    simp
  have noted := filled_foldl_note empty entries
  intro file listed
  simp only [ofEntries, Std.ExtTreeMap.getElem?_map] at listed
  obtain ⟨files, known, sorted⟩ := Option.map_eq_some_iff.mp listed
  have nothing : files = [] :=
    ((List.mergeSort_perm files _).symm.trans (.of_eq sorted)).eq_nil
  rw [nothing] at known
  exact noted file known

/-- If no file without dependants is listed, the dependants alone tell what is listed. -/
theorem Filled.getElem?_eq {edges : Std.ExtTreeMap String (List String) compare}
    (filled : Filled edges) (file : String) :
    edges[file]? =
      if edges.getD file [] = [] then none else some (edges.getD file []) := by
  rw [Std.ExtTreeMap.getD_eq_getD_getElem?]
  cases known : edges[file]? with
  | none => rfl
  | some files =>
    have nonempty : files ≠ [] := by
      rintro rfl
      exact filled file known
    rw [Option.getD_some, if_neg nonempty]

/-- Where no list is empty, the lists of dependants say all about a reversed graph. -/
theorem ext_dependantsOf {first second : ReverseGraph} (filled : Filled first.edges)
    (filled' : Filled second.edges)
    (same : ∀ file, first.dependantsOf file = second.dependantsOf file) : first = second := by
  obtain ⟨edges⟩ := first
  obtain ⟨others⟩ := second
  congr 1
  refine Std.ExtTreeMap.ext_getElem? fun file => ?_
  have listed : edges.getD file [] = others.getD file [] := same file
  rw [filled.getElem?_eq, filled'.getElem?_eq, listed]

/-- The order in which entries are enumerated has no influence on the reversed graph. -/
theorem ofEntries_eq_of_perm {entries others : List (String × List String)}
    (perm : entries.Perm others) : ofEntries entries = ofEntries others := by
  refine ext_dependantsOf (filled_ofEntries entries) (filled_ofEntries others) ?_
  intro dependency
  have reversed : entries.reverse.Perm others.reverse :=
    entries.reverse_perm.trans (perm.trans others.reverse_perm.symm)
  rw [dependantsOf_ofEntries, dependantsOf_ofEntries]
  exact Collection.mergeSort_eq_of_perm (reversed.flatMap_right _)

/-- Entries of different files, none of which lists a file twice, make dependants come in
strictly increasing order. -/
theorem increasing_ofEntries {entries : List (String × List String)}
    (names : entries.Pairwise fun entry other => entry.1 ≠ other.1)
    (lists : ∀ entry ∈ entries, entry.2.Nodup) (dependency : String) :
    ((ofEntries entries).dependantsOf dependency).Pairwise (· < ·) := by
  rw [dependantsOf_ofEntries]
  refine Collection.pairwise_lt_mergeSort ?_
  -- One entry notes its file at most once, and two entries note different files.
  refine List.nodup_flatMap.mpr ⟨?_, ?_⟩
  · intro entry member
    rw [List.nodup_replicate]
    exact List.nodup_iff_count_le_one.mp (lists entry (List.mem_reverse.mp member)) dependency
  · refine List.pairwise_reverse.mpr (names.imp ?_)
    intro entry other apart file noted noted'
    exact apart ((List.eq_of_mem_replicate noted').symm.trans (List.eq_of_mem_replicate noted))

end ReverseGraph

namespace DependencyGraph

/-- A reversed graph lists for each file exactly the files that depend on it, in strictly
increasing order and so each of them once. -/
structure IsReversedBy (graph : DependencyGraph) (reversed : ReverseGraph) : Prop where
  increasing : ∀ dependency, (reversed.dependantsOf dependency).Pairwise (· < ·)
  mem_iff : ∀ dependency file,
    file ∈ reversed.dependantsOf dependency ↔ dependency ∈ graph.dependenciesOf file

/-- The reverse of a graph without repetitions lists the dependants of each file in order. -/
theorem Repeatless.isReversedBy_reverse {graph : DependencyGraph}
    (repeatless : graph.Repeatless) : graph.IsReversedBy graph.reverse where
  increasing := by
    refine ReverseGraph.increasing_ofEntries ?_ ?_
    · refine Std.ExtTreeMap.distinct_keys_toList.imp ?_
      intro entry other apart same
      exact apart (Std.LawfulEqCmp.compare_eq_iff_eq.mpr same)
    · rintro ⟨file, dependencies⟩ member
      have known := Std.ExtTreeMap.mem_toList_iff_getElem?_eq_some.mp member
      have nodup := repeatless file
      rwa [dependenciesOf, Std.ExtTreeMap.getD_eq_getD_getElem?, known] at nodup
  mem_iff := fun _ _ => mem_dependantsOf_reverse

/-- After every history of changes and for every order in which the files are enumerated, the
reversed graph is the same, and it is exactly the graph turned around. -/
theorem reverse_of_enumeration (ops : List Op) {entries : List (String × List String)}
    (enumerated : entries.Perm ((∅ : DependencyGraph).run ops).entries) :
    ReverseGraph.ofEntries entries = ((∅ : DependencyGraph).run ops).reverse ∧
      ((∅ : DependencyGraph).run ops).IsReversedBy (ReverseGraph.ofEntries entries) := by
  have same : ReverseGraph.ofEntries entries = ((∅ : DependencyGraph).run ops).reverse :=
    ReverseGraph.ofEntries_eq_of_perm enumerated
  refine ⟨same, ?_⟩
  rw [same]
  exact (repeatless_empty.run ops).isReversedBy_reverse

/-- Two files with a common dependency, enumerated against the order of their names. -/
theorem reverse_of_backward_enumeration :
    [("b", ["d", "c"]), ("a", ["d"])].Perm
        ((∅ : DependencyGraph).run [.set "a" ["d"], .set "b" ["d", "c", "d"]]).entries ∧
      ReverseGraph.ofEntries [("b", ["d", "c"]), ("a", ["d"])] =
        ((∅ : DependencyGraph).run [.set "a" ["d"], .set "b" ["d", "c", "d"]]).reverse ∧
      ((∅ : DependencyGraph).run [.set "a" ["d"], .set "b" ["d", "c", "d"]]).IsReversedBy
        (ReverseGraph.ofEntries [("b", ["d", "c"]), ("a", ["d"])]) := by
  have enumerated : [("b", ["d", "c"]), ("a", ["d"])].Perm
      ((∅ : DependencyGraph).run [.set "a" ["d"], .set "b" ["d", "c", "d"]]).entries := by
    decide +kernel
  exact ⟨enumerated, reverse_of_enumeration _ enumerated⟩

end DependencyGraph

end ScriptLoader
