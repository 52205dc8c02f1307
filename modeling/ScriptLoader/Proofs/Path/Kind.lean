import Mathlib.Data.List.Basic
import ScriptLoader.Path.Kind

/-!
# Kinds of files, by their names

A name is of a kind if it is a stem followed by one of the endings of the kind. Every kind is
decided by looking for its endings (`endsInOneOf_iff`). The endings overlap: a declaration file is
a source, too. A script is no source map, since their names end in different letters.
-/

namespace ScriptLoader.Path

/-- The name of a source that watch passes look at. -/
def IsSourceName (name : String) : Prop :=
  ∃ ending ∈ [".ts", ".tsx", ".js", ".jsx"], ∃ stem, name = stem ++ ending

/-- The name of a declaration file. -/
def IsDeclarationName (name : String) : Prop :=
  ∃ ending ∈ [".d.ts", ".d.tsx"], ∃ stem, name = stem ++ ending

/-- The name of a script. -/
def IsScriptName (name : String) : Prop :=
  ∃ ending ∈ [".js", ".jsx"], ∃ stem, name = stem ++ ending

/-- The name of a source map of a script. -/
def IsMapName (name : String) : Prop :=
  ∃ ending ∈ [".js.map", ".jsx.map"], ∃ stem, name = stem ++ ending

/-- A name ends in one of the endings if it is something followed by one of them. -/
theorem endsInOneOf_iff {endings : List String} {name : String} :
    endsInOneOf endings name = true ↔ ∃ ending ∈ endings, ∃ stem, name = stem ++ ending := by
  unfold endsInOneOf
  rw [List.any_eq_true]
  refine exists_congr fun ending => and_congr_right fun _ => ?_
  rw [List.isSuffixOf_iff_suffix]
  constructor
  · rintro ⟨letters, same⟩
    refine ⟨String.ofList letters, ?_⟩
    rw [← String.toList_inj, String.toList_append, String.toList_ofList, same]
  · rintro ⟨stem, rfl⟩
    exact ⟨stem.toList, String.toList_append.symm⟩

/-- A watch pass looks at the names of sources. -/
theorem isWatched_iff (name : String) : isWatched name = true ↔ IsSourceName name :=
  endsInOneOf_iff

/-- Declaration files are told by their names. -/
theorem isDeclaration_iff (name : String) : isDeclaration name = true ↔ IsDeclarationName name :=
  endsInOneOf_iff

/-- Emitted scripts are told by their names. -/
theorem isScript_iff (name : String) : isScript name = true ↔ IsScriptName name :=
  endsInOneOf_iff

/-- Emitted source maps are told by their names. -/
theorem isScriptMap_iff (name : String) : isScriptMap name = true ↔ IsMapName name :=
  endsInOneOf_iff

instance (name : String) : Decidable (IsSourceName name) :=
  decidable_of_iff _ (isWatched_iff name)

/-- A declaration file is a source. -/
theorem IsDeclarationName.isSourceName {name : String} (declaration : IsDeclarationName name) :
    IsSourceName name := by
  obtain ⟨ending, among, stem, rfl⟩ := declaration
  rcases List.mem_pair.mp among with rfl | rfl
  · refine ⟨".ts", by simp, stem ++ ".d", ?_⟩
    rw [String.append_assoc]
    rfl
  · refine ⟨".tsx", by simp, stem ++ ".d", ?_⟩
    rw [String.append_assoc]
    rfl

/-- A name has the last letter of its ending. -/
theorem getLast?_append (stem : String) {ending : String} {last : Char}
    (ends : ending.toList.getLast? = some last) :
    (stem ++ ending).toList.getLast? = some last := by
  rw [String.toList_append, List.getLast?_append, ends, Option.some_or]

/-- The name of a script does not end as that of a source map does. -/
theorem IsScriptName.not_isMapName {name : String} (isScript : IsScriptName name) :
    ¬ IsMapName name := by
  have scriptEnd : name.toList.getLast? = some 's' ∨ name.toList.getLast? = some 'x' := by
    obtain ⟨ending, among, stem, rfl⟩ := isScript
    rcases List.mem_pair.mp among with rfl | rfl
    · exact .inl (getLast?_append stem (by decide +kernel))
    · exact .inr (getLast?_append stem (by decide +kernel))
  intro isMap
  have mapEnd : name.toList.getLast? = some 'p' := by
    obtain ⟨ending, among, stem, rfl⟩ := isMap
    rcases List.mem_pair.mp among with rfl | rfl <;>
      exact getLast?_append stem (by decide +kernel)
  simp [mapEnd] at scriptEnd

end ScriptLoader.Path
