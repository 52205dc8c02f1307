import ScriptLoader.Proofs.Collection
import ScriptLoader.Proofs.Instance.Footprint
import ScriptLoader.Proofs.Path.Kind

/-!
# What a result reports of dependencies

A result lists the files whose changes may make its output out of date: the compiled file
itself, every declaration file that is tracked when the compiler is done, and what is then
recorded for the compiled file. These parts may overlap, and a file counts where it is mentioned
first. All files but the first come with a stamp of their path and their version, from which
both can be read, whatever the path holds.
-/

namespace ScriptLoader

/-- The paths of the tracked declaration files, in a store of proper records. -/
theorem FileStore.Proper.map_declarationFiles {store : FileStore} (proper : store.Proper) :
    store.declarationFiles.map (·.1) = store.paths.filter Path.isDeclaration := by
  -- A record stands under its own path, so it does not matter which of the two is looked at.
  have ownPath : ∀ entry ∈ store.records.toList, entry.2.path = entry.1 := by
    intro entry among
    exact (proper _ _ (Std.ExtTreeMap.mem_toList_iff_getElem?_eq_some.mp among)).ownPath
  rw [declarationFiles, all, paths, Collection.values_eq_map_toList,
    ← Std.ExtTreeMap.map_fst_toList_eq_keys, List.filter_map, List.filter_map, List.map_map,
    List.map_map]
  have sameFilter : store.records.toList.filter (fun entry => Path.isDeclaration entry.2.path) =
      store.records.toList.filter (fun entry => Path.isDeclaration entry.1) :=
    List.filter_congr fun entry among => by rw [ownPath entry among]
  refine (congrArg _ sameFilter).trans (List.map_congr_left ?_)
  intro entry kept
  exact ownPath entry (List.mem_filter.mp kept).1

/-- The paths that are mentioned as dependencies of a result: the compiled file, the declaration
files, and what is recorded for the compiled file, in the order in which it is recorded. -/
def EmitResult.mentions (state : InstanceState) (declarations : List String)
    (result : EmitResult) : List String :=
  result.path :: (declarations ++ state.graph.dependenciesOf result.path)

/-- What a result reports of dependencies, where `state` is what the compiler leaves and
`declarations` are the paths of its declaration files. -/
structure EmitResult.DependencyReport (state : InstanceState) (declarations : List String)
    (result : EmitResult) : Prop where
  /-- The declaration files are the tracked files with such a name, in order. -/
  mem_declarations_iff : ∀ path, path ∈ declarations ↔ state.files.contains path = true ∧
    ∃ ending ∈ [".d.ts", ".d.tsx"], ∃ stem, path = stem ++ ending
  declarations_ordered : declarations.Pairwise (· < ·)
  /-- The dependencies are what is mentioned, each once, in the order of the first mention. -/
  dependencies_eq : result.dependencies = (result.mentions state declarations).eraseDups
  nodup : result.dependencies.Nodup
  ordered : result.dependencies.Pairwise fun first second =>
    (result.mentions state declarations).idxOf first <
      (result.mentions state declarations).idxOf second
  /-- The compiled file comes first, and every other dependency has a stamp, in the same order. -/
  head_eq : result.dependencies.head? = some result.path
  definitionVersions_eq : result.definitionVersions =
    result.dependencies.tail.map fun path => stamp path (state.files.versionOf? path)
  /-- No other path and version have the same stamp. -/
  stamp_determines : ∀ {first second : String} {firstVersion secondVersion : Option Nat},
    stamp first firstVersion = stamp second secondVersion →
      first = second ∧ firstVersion = secondVersion

section Report

variable {workspace : Workspace} {options : LoaderOptions} {compiler : Compiler}
  {state : InstanceState} {request : EmitRequest} {result : EmitResult}

/-- Every result of a compilation in full mode reports the dependencies that there are when its
compiler is done. -/
theorem InstanceState.Reached.reports_dependencies (reached : state.Reached)
    (full : options.transpileOnly = false)
    (success : (request.emit workspace options compiler state).result = .ok result) :
    ∃ declarations, result.DependencyReport
      (request.emit workspace options compiler state).state declarations := by
  have proper := (Reached.compiled reached workspace options compiler request).proper
  have definitionsEq := EmitRequest.definitionVersions_of_emit_eq_ok full success
  have dependenciesEq := EmitRequest.dependencies_of_emit_eq_ok full success
  rw [← (EmitRequest.emit_eq_ok success).1] at dependenciesEq
  generalize (request.emit workspace options compiler state).state = final at *
  have keptEq : result.dependencies =
      (result.mentions final (final.files.declarationFiles.map (·.1))).eraseDups := dependenciesEq
  rw [proper.map_declarationFiles] at keptEq
  refine ⟨final.files.paths.filter Path.isDeclaration, {
    mem_declarations_iff := ?_
    declarations_ordered := final.files.paths_ordered.filter _
    dependencies_eq := keptEq
    nodup := ?_
    ordered := ?_
    head_eq := ?_
    definitionVersions_eq := ?_
    stamp_determines := stamp_inj }⟩
  · intro path
    rw [List.mem_filter, FileStore.mem_paths_iff, Path.isDeclaration, Path.endsInOneOf_iff]
  · rw [keptEq]
    exact Collection.nodup_eraseDups _
  · rw [keptEq]
    exact Collection.pairwise_idxOf_eraseDups _
  · rw [keptEq, EmitResult.mentions, List.eraseDups_cons]
    rfl
  · rw [definitionsEq]
    exact List.map_congr_left fun path _ => final.definitionVersion_eq_stamp path

end Report

/-- A compiler that reads a declaration file, tells dependencies of the file that it is handed,
among them this file, and gives a script. -/
def tellingCompiler (declaration : String) (modules : List String) : Compiler :=
  ⟨fun path => .call (.read declaration) fun _ =>
      .call (.setResolvedModules path (declaration :: path :: modules)) fun _ =>
        .call (.recordDependency path "/c@?.ts") fun _ => .done (.ok ⟨[⟨"a.js", ""⟩], []⟩),
    fun _ => .error (.compiler "")⟩

/-- A declaration file is compiled whose name looks like a stamp. It depends on itself, and on
a declaration file that is tracked. -/
theorem reports_dependencies_of_declaration :
    stateAfterReading.Reached ∧ (LoaderOptions.defaults "").transpileOnly = false ∧
      ∃ result, ((EmitRequest.plain (.ofString "/a@2.d.ts") "").emit (uniformWorkspace "")
          (.defaults "") (tellingCompiler "/b.d.tsx" ["/b.ts", "/./b.ts"])
          stateAfterReading).result = .ok result ∧
        (∃ declarations, result.DependencyReport
          ((EmitRequest.plain (.ofString "/a@2.d.ts") "").emit (uniformWorkspace "")
            (.defaults "") (tellingCompiler "/b.d.tsx" ["/b.ts", "/./b.ts"])
            stateAfterReading).state declarations) ∧
        result.dependencies = ["/a@2.d.ts", "/b.d.tsx", "/lib.d.ts", "/b.ts", "/c@?.ts"] ∧
        result.definitionVersions = ["/b.d.tsx@0", "/lib.d.ts@0", "/b.ts@?", "/c@?.ts@?"] := by
  have reached : stateAfterReading.Reached := .compiled .created ..
  have checked : ((EmitRequest.plain (.ofString "/a@2.d.ts") "").emit (uniformWorkspace "")
      (.defaults "") (tellingCompiler "/b.d.tsx" ["/b.ts", "/./b.ts"])
      stateAfterReading).result.toOption.map
        (fun result => (result.dependencies, result.definitionVersions)) =
      some (["/a@2.d.ts", "/b.d.tsx", "/lib.d.ts", "/b.ts", "/c@?.ts"],
        ["/b.d.tsx@0", "/lib.d.ts@0", "/b.ts@?", "/c@?.ts@?"]) := by decide +kernel
  obtain ⟨result, success, read⟩ := exists_ok_of_map_toOption checked
  obtain ⟨dependenciesEq, definitionsEq⟩ := Prod.mk.inj read
  exact ⟨reached, rfl, result, success, reached.reports_dependencies rfl success, dependenciesEq,
    definitionsEq⟩

end ScriptLoader
