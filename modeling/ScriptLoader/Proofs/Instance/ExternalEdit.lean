import ScriptLoader.Proofs.Instance.Footprint
import ScriptLoader.Proofs.Instance.WatchPass

/-!
# An external edit counts once

A file that was edited outside is met twice: a watch pass reads it again, and the build tool
supplies its new text with the next request. The pass believes that the file changed and moves
its version; a request compares first. What the pass leaves in the record is the text on disk,
so a request with the same text finds nothing to count. In between other files may be compiled,
with compilers that read this one: a record that holds a text is not touched by a reading.
-/

namespace ScriptLoader

/-- An attempt to compile a file: a request together with everything else that its outcome
depends on, but for the state of the instance. -/
structure EmitAttempt where
  workspace : Workspace
  options : LoaderOptions
  compiler : Compiler
  request : EmitRequest

namespace EmitAttempt

/-- The path under which the file is compiled. -/
def path (attempt : EmitAttempt) : String :=
  attempt.request.path attempt.workspace attempt.options

/-- What becomes of the request in a state. -/
def outcome (attempt : EmitAttempt) (state : InstanceState) : EmitOutcome :=
  attempt.request.emit attempt.workspace attempt.options attempt.compiler state

end EmitAttempt

namespace InstanceState

/-- The state after attempts, one after the other, whether or not they give results. -/
def compileAll (state : InstanceState) (attempts : List EmitAttempt) : InstanceState :=
  attempts.foldl (fun state attempt => (attempt.outcome state).state) state

/-- A state knows a file at a version and with a text. -/
def Knows (path : String) (version : Nat) (text : String) (state : InstanceState) : Prop :=
  ∃ record, state.files.get? path = some record ∧ record.version = version ∧
    record.content = some text

end InstanceState

section Supplying

variable {state : InstanceState} {path text : String} {version : Nat}

/-- A watch pass leaves a file that it can read at the next version and with its text on
disk. -/
theorem InstanceState.knows_reconcile {workspace : Workspace} {policy : UnreadablePolicy}
    {observed : List RawPath} (due : state.IsDue workspace observed path)
    (tracked : state.files.versionOf? path = some version)
    (readable : workspace.disk.read path = .ok text) :
    (state.reconcile workspace policy observed).state.Knows path (version + 1) text := by
  have kept : ¬ GivenUp workspace.disk policy path := by
    rintro ⟨_, cause, unreadable⟩
    simp [readable] at unreadable
  obtain ⟨record, known, refreshed⟩ :=
    get?_reconcile_of_refreshed (mem_refreshed_reconcile_iff.mpr ⟨due, kept⟩)
  have versionEq : record.version = version := by
    simpa [FileStore.versionOf?, known] using tracked
  refine ⟨_, refreshed, ?_, ?_⟩
  · rw [versionEq]
  · rw [readable]
    rfl

namespace EmitAttempt

variable {attempt : EmitAttempt} (known : state.Knows path version text)

include known

/-- An attempt, whatever its file, leaves a known file as it is, provided that it does not
supply another text for it. -/
theorem knows_outcome (supplied : attempt.path = path → attempt.request.content = text) :
    (attempt.outcome state).state.Knows path version text := by
  obtain ⟨record, held, versionEq, holds⟩ := known
  refine ⟨record, ?_, versionEq, holds⟩
  by_cases own : attempt.path = path
  · have recordEq : state.files.recordOf attempt.path = record :=
      FileStore.recordOf_of_get? (own ▸ held)
    rw [← own]
    calc (attempt.outcome state).state.files.get? attempt.path
        = some ((state.files.recordOf attempt.path).supplied attempt.request.content) :=
          EmitRequest.get?_emit
      _ = some record := by
          rw [recordEq, supplied own, FileRecord.supplied_eq_self holds]
  · have other : path ≠ attempt.request.path attempt.workspace attempt.options := Ne.symm own
    obtain ⟨afterEq, suppliedEq⟩ :=
      EmitRequest.get?_emit_of_other attempt.compiler state other
    rw [outcome, afterEq]
    exact FileStore.get?_run_track (suppliedEq.trans held) (by simp [holds]) _ _

/-- Compiling a known file with its text gives its version and counts no change. -/
theorem outcome_of_knows (own : attempt.path = path)
    (supplied : attempt.request.content = text) :
    (∀ result, (attempt.outcome state).result = .ok result →
      result.path = path ∧ result.fileVersion = version) ∧
    (attempt.outcome state).state.files.programVersion = state.files.programVersion := by
  obtain ⟨record, held, versionEq, holds⟩ := known
  have recordEq : state.files.recordOf attempt.path = record :=
    FileStore.recordOf_of_get? (own ▸ held)
  refine ⟨?_, ?_⟩
  · intro result success
    obtain ⟨pathEq, fileVersionEq, _⟩ := EmitRequest.emit_eq_ok success
    refine ⟨pathEq.trans own, ?_⟩
    change result.fileVersion =
      state.files.updatedVersion attempt.path attempt.request.content at fileVersionEq
    rw [fileVersionEq, FileStore.updatedVersion_eq, recordEq, supplied,
      FileRecord.supplied_eq_self holds, versionEq]
  · have same : (state.files.recordOf attempt.path).hasContent
        attempt.request.content = true := by
      rw [recordEq, supplied]
      exact FileRecord.hasContent_iff.mpr holds
    rw [outcome, EmitRequest.files_emit, FileStore.run_cons,
      (FileStore.frame_run_track ..).2, FileStore.programVersion_apply]
    change _ + (if (state.files.recordOf attempt.path).hasContent
      attempt.request.content then 0 else 1) = _
    rw [if_pos same, Nat.add_zero]

end EmitAttempt

/-- Attempts leave a known file as it is, provided that none supplies another text for
it. -/
theorem InstanceState.knows_compileAll {attempts : List EmitAttempt}
    (known : state.Knows path version text)
    (supplied : ∀ attempt ∈ attempts,
      attempt.path = path → attempt.request.content = text) :
    (state.compileAll attempts).Knows path version text := by
  induction attempts generalizing state with
  | nil => exact known
  | cons attempt attempts ih =>
    obtain ⟨here, later⟩ := List.forall_mem_cons.mp supplied
    exact ih (attempt.knows_outcome known here) later

end Supplying

namespace InstanceState

/-- After a watch pass has met an edited file, requests that supply the edited text count no
further change, and their results report the version that the pass gave, whatever else is
compiled in between and whether or not there are results. -/
theorem external_edit_counts_once {state : InstanceState} {workspace : Workspace}
    (policy : UnreadablePolicy) {observed : List RawPath} {path text : String} {version : Nat}
    (isObserved : ∃ raw ∈ observed, raw.normalize workspace.directory = path)
    (isSource : Path.IsSourceName path)
    (tracked : state.files.versionOf? path = some version)
    (readable : workspace.disk.read path = .ok text) {attempts : List EmitAttempt}
    (supplied : ∀ attempt ∈ attempts,
      attempt.path = path → attempt.request.content = text) :
    ∀ before attempt after, attempts = before ++ attempt :: after →
      attempt.path = path →
      let moment := (state.reconcile workspace policy observed).state.compileAll before
      (∀ result, (attempt.outcome moment).result = .ok result →
        result.path = path ∧ result.fileVersion = version + 1) ∧
      (attempt.outcome moment).state.files.programVersion = moment.files.programVersion := by
  intro before attempt after split own
  subst split
  obtain ⟨suppliedBefore, suppliedFromHere⟩ := List.forall_mem_append.mp supplied
  obtain ⟨suppliedHere, _⟩ := List.forall_mem_cons.mp suppliedFromHere
  have isTracked : state.files.contains path = true := by
    obtain ⟨record, held, _⟩ := Option.map_eq_some_iff.mp tracked
    simp [FileStore.contains, held]
  have refreshed : (state.reconcile workspace policy observed).state.Knows path (version + 1)
      text := knows_reconcile ⟨isObserved, isSource, isTracked⟩ tracked readable
  have stillKnown := knows_compileAll refreshed suppliedBefore
  exact attempt.outcome_of_knows stillKnown own (suppliedHere own)

/-- A compiler that reads a file and gives a script. -/
def readingScriptCompiler (path : String) : Compiler :=
  ⟨fun _ => .call (.read path) fun _ => .done (.ok ⟨[⟨"a.js", ""⟩], []⟩),
    fun _ => .error (.compiler "")⟩

/-- After an edit of `/a.ts`, another file is compiled with a compiler that reads it, and a
request for it fails. All texts on disk have changed again by then. -/
def attemptsAfterEdit : List EmitAttempt :=
  [⟨uniformWorkspace "three", .defaults "", readingScriptCompiler "/a.ts",
      .plain (.ofString "/b.ts") "one"⟩,
    ⟨uniformWorkspace "three", .defaults "", readingCompiler ["/lib.d.ts"],
      .plain (.ofString "/src/../a.ts") "two"⟩]

/-- The request for `/a.ts` that follows. -/
def attemptAtEdited : EmitAttempt :=
  ⟨uniformWorkspace "three", .defaults "", readingScriptCompiler "/b.ts",
    .plain (.ofString "a.ts") "two"⟩

/-- `/a.ts` is at version 1 and is edited. The watch pass meets it under another spelling. -/
theorem external_edit_counts_once_among_requests :
    (∃ raw ∈ [RawPath.ofString "/./a.ts"], raw.normalize (uniformWorkspace "two").directory =
      "/a.ts") ∧
    Path.IsSourceName "/a.ts" ∧
    stateAfterReading.files.versionOf? "/a.ts" = some 1 ∧
    (uniformWorkspace "two").disk.read "/a.ts" = .ok "two" ∧
    (∀ attempt ∈ attemptsAfterEdit ++ [attemptAtEdited],
      attempt.path = "/a.ts" → attempt.request.content = "two") ∧
    let moment := (stateAfterReading.reconcile (uniformWorkspace "two") .untrack
      [.ofString "/./a.ts"]).state.compileAll attemptsAfterEdit
    (∀ result, (attemptAtEdited.outcome moment).result = .ok result →
      result.path = "/a.ts" ∧ result.fileVersion = 2) ∧
    (attemptAtEdited.outcome moment).state.files.programVersion =
      moment.files.programVersion ∧
    (attemptAtEdited.outcome moment).result.toOption.map (·.fileVersion) = some 2 := by
  have isObserved : ∃ raw ∈ [RawPath.ofString "/./a.ts"],
      raw.normalize (uniformWorkspace "two").directory = "/a.ts" := by decide +kernel
  have tracked : stateAfterReading.files.versionOf? "/a.ts" = some 1 := by decide +kernel
  have supplied : ∀ attempt ∈ attemptsAfterEdit ++ [attemptAtEdited],
      attempt.path = "/a.ts" → attempt.request.content = "two" := by decide +kernel
  obtain ⟨reported, counted⟩ := external_edit_counts_once .untrack isObserved
    (by decide) tracked (show (uniformWorkspace "two").disk.read "/a.ts" = .ok "two" from rfl)
    supplied attemptsAfterEdit attemptAtEdited [] rfl (by decide +kernel)
  exact ⟨isObserved, by decide, tracked, rfl, supplied, reported, counted, by decide +kernel⟩

end InstanceState

end ScriptLoader
