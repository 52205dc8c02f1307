import ScriptLoader.Proofs.Instance.History
import ScriptLoader.Proofs.Outcome
import ScriptLoader.Proofs.Text.Numeral

/-!
# What a result says about the files

A result reports versions: that of the compiled file, and those of its dependencies in stamps,
texts of a path and a version. Both are the versions that the files of the instance have when
the result is given. Paths may hold anything, also what stands between a path and its version;
a stamp still tells both.
-/

namespace ScriptLoader

section Stamps

/-- What stands for the version of a file in a stamp; a file that is not tracked has a question
mark. -/
def versionText : Option Nat → String
  | some version => version.repr
  | none => "?"

/-- A path with the version of its file. -/
def stamp (path : String) (version : Option Nat) : String :=
  path ++ "@" ++ versionText version

/-- What a result says of a version is the stamp of the path and the version. -/
theorem InstanceState.definitionVersion_eq_stamp (state : InstanceState) (path : String) :
    state.definitionVersion path = stamp path (state.files.versionOf? path) := by
  unfold definitionVersion stamp
  cases state.files.versionOf? path with
  | some version => rfl
  | none => rw [versionText, String.append_assoc]; rfl

/-- The text of a version has no separator. -/
theorem separator_notMem_versionText (version : Option Nat) :
    '@' ∉ (versionText version).toList := by
  cases version with
  | some version => exact notMem_toList_repr (by decide) version
  | none => decide

/-- The text of a version tells the version. -/
theorem versionText_inj {first second : Option Nat}
    (same : versionText first = versionText second) : first = second := by
  -- A question mark is no digit.
  have notNumeral : ∀ version : Nat, version.repr ≠ "?" := by
    intro version isMark
    have absent : '?' ∉ version.repr.toList := notMem_toList_repr (by decide) version
    simp [isMark] at absent
  cases first with
  | some version =>
    cases second with
    | some other => exact congrArg some (Nat.repr_inj.mp same)
    | none => exact absurd same (notNumeral version)
  | none =>
    cases second with
    | some other => exact absurd same.symm (notNumeral other)
    | none => rfl

/-- A stamp tells the path and the version. -/
theorem stamp_inj {first second : String} {firstVersion secondVersion : Option Nat}
    (same : stamp first firstVersion = stamp second secondVersion) :
    first = second ∧ firstVersion = secondVersion := by
  obtain ⟨pathEq, versionsEq⟩ := append_separator_inj
    (separator_notMem_versionText firstVersion) (separator_notMem_versionText secondVersion) same
  exact ⟨pathEq, versionText_inj versionsEq⟩

end Stamps

/-- The versions that a result reports. -/
inductive EmitResult.Reports (result : EmitResult) : String → Nat → Prop where
  /-- The version of the compiled file. -/
  | compiled : Reports result result.path result.fileVersion
  /-- The version of a dependency. -/
  | dependency {path : String} {version : Nat}
      (listed : s!"{path}@{version}" ∈ result.definitionVersions) :
      Reports result path version

/-- A text with a version is that of the file and of its version in the store. -/
theorem InstanceState.definitionVersion_eq {state : InstanceState} {file path : String}
    {version : Nat} (same : state.definitionVersion file = s!"{path}@{version}") :
    file = path ∧ state.files.versionOf? path = some version := by
  have stamps : stamp file (state.files.versionOf? file) = stamp path (some version) :=
    (state.definitionVersion_eq_stamp file).symm.trans same
  obtain ⟨rfl, versionEq⟩ := stamp_inj stamps
  exact ⟨rfl, versionEq⟩

namespace EmitRequest

variable {request : EmitRequest}

/-- A result has the version and the dependencies that its compilation ended with. -/
theorem finish_eq_ok {path : String} {fileVersion : Nat} {emitted : Emitted}
    {result : EmitResult} (finished : request.finish path fileVersion emitted = .ok result) :
    result.path = path ∧ result.fileVersion = fileVersion ∧
      result.dependencies = emitted.dependencies ∧
      result.definitionVersions = emitted.definitionVersions := by
  unfold finish at finished
  split at finished
  · cases finished
  · split at finished
    · cases finished
    · cases finished
      exact ⟨rfl, rfl, rfl, rfl⟩

section Emit

variable {workspace : Workspace} {options : LoaderOptions} {compiler : Compiler}
  {state : InstanceState} {result : EmitResult}

/-- The record of the compiled file is the one with the content of the request, whatever the
compiler does. -/
theorem get?_emit :
    (request.emit workspace options compiler state).state.files.get?
        (request.path workspace options) =
      some ((state.files.recordOf (request.path workspace options)).supplied
        request.content) := by
  rw [files_emit, FileStore.run_cons]
  apply FileStore.get?_run_track
  · exact (FileStore.get?_update ..).trans (if_pos rfl)
  · simp

/-- A result is about the file of the request at the version that its content has, and the
versions of the dependencies are those at the end. -/
theorem emit_eq_ok
    (success : (request.emit workspace options compiler state).result = .ok result) :
    result.path = request.path workspace options ∧
      result.fileVersion = state.files.updatedVersion (request.path workspace options)
        request.content ∧
      ∀ entry ∈ result.definitionVersions, ∃ file,
        (request.emit workspace options compiler state).state.definitionVersion file =
          entry := by
  unfold emit at success ⊢
  split at success
  · next transpiles =>
    obtain ⟨output, _, finished⟩ := bind_eq_ok.mp success
    obtain ⟨pathEq, versionEq, _, entriesEq⟩ := finish_eq_ok finished
    refine ⟨pathEq, versionEq, ?_⟩
    intro entry member
    rw [entriesEq] at member
    cases member
  · next emits =>
    obtain ⟨output, _, finished⟩ := bind_eq_ok.mp success
    obtain ⟨pathEq, versionEq, _, entriesEq⟩ := finish_eq_ok finished
    refine ⟨pathEq, versionEq, ?_⟩
    intro entry member
    rw [entriesEq] at member
    obtain ⟨file, _, entryEq⟩ := List.mem_map.mp member
    rw [if_neg emits]
    exact ⟨file, entryEq⟩

/-- The dependencies of a result, where the file was compiled in its program, are those of
the file in the state that the compiler leaves. -/
theorem dependencies_of_emit_eq_ok (full : options.transpileOnly = false)
    (success : (request.emit workspace options compiler state).result = .ok result) :
    result.dependencies =
      (request.emit workspace options compiler state).state.dependenciesOf
        (request.path workspace options) := by
  simp only [emit, full, Bool.false_eq_true, if_false] at success ⊢
  obtain ⟨output, _, finished⟩ := bind_eq_ok.mp success
  exact (finish_eq_ok finished).2.2.1

/-- Where the file was compiled in its program, every dependency but the file itself has an entry
with its version, in the same order. -/
theorem definitionVersions_of_emit_eq_ok (full : options.transpileOnly = false)
    (success : (request.emit workspace options compiler state).result = .ok result) :
    result.definitionVersions = result.dependencies.tail.map
      (request.emit workspace options compiler state).state.definitionVersion := by
  rw [dependencies_of_emit_eq_ok full success]
  simp only [emit, full, Bool.false_eq_true, if_false] at success ⊢
  obtain ⟨output, _, finished⟩ := bind_eq_ok.mp success
  exact (finish_eq_ok finished).2.2.2

/-- A file that was transformed on its own depends on itself only. -/
theorem dependencies_of_emit_eq_ok_of_transpileOnly (alone : options.transpileOnly = true)
    (success : (request.emit workspace options compiler state).result = .ok result) :
    result.dependencies = [request.path workspace options] := by
  simp only [emit, alone, if_true] at success
  obtain ⟨output, _, finished⟩ := bind_eq_ok.mp success
  exact (finish_eq_ok finished).2.2.1

/-- The content of a compiled file when its result is given is that of the request. -/
theorem contentOf?_of_emit_eq_ok
    (success : (request.emit workspace options compiler state).result = .ok result) :
    (request.emit workspace options compiler state).state.files.contentOf? result.path =
      some request.content := by
  rw [(emit_eq_ok success).1, FileStore.contentOf?, get?_emit]
  simp

/-- The versions that a result reports are those of the files when it is given. -/
theorem versionOf?_of_emit_eq_ok
    (success : (request.emit workspace options compiler state).result = .ok result)
    {path : String} {version : Nat} (reported : result.Reports path version) :
    (request.emit workspace options compiler state).state.files.versionOf? path =
      some version := by
  obtain ⟨pathEq, versionEq, entries⟩ := emit_eq_ok success
  cases reported with
  | compiled =>
    rw [pathEq, versionEq, FileStore.versionOf?, get?_emit, FileStore.updatedVersion_eq]
    rfl
  | dependency listed =>
    obtain ⟨file, same⟩ := entries _ listed
    exact (InstanceState.definitionVersion_eq same).2

end Emit

end EmitRequest

end ScriptLoader
