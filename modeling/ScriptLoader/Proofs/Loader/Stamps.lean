import ScriptLoader.Proofs.Instance.Footprint
import ScriptLoader.Proofs.Loader.Instances

/-!
# How long a reported version holds

A build tool takes a path with a version for a content. That is right within one instance
until a watch pass reports the file as forgotten: the record goes, and with the next content
the count starts over. Up to then a call acts on the files of an instance by operations that
end the tracking of nothing, so `recordOf?_run_precedes` carries the order of the records from
one result to the next.
-/

namespace ScriptLoader

namespace LoaderCall

variable {loader : Loader} {key : String}

/-- A watch pass reports that an instance forgot a file. -/
def Forgets (loader : Loader) (key path : String) : LoaderCall → Prop
  | .watch workspace observed => ∃ report,
      (key, report) ∈ (loader.watchRun workspace observed).reports ∧ path ∈ report.untracked
  | _ => False

/-- Whether a call supplies a file. -/
def isCompile : LoaderCall → Bool
  | .compile .. => true
  | _ => false

/-- What the pass over an instance reports as forgotten is reported by the watch pass. -/
theorem forgets_watch {workspace : Workspace} {observed : List RawPath} {inst : Instance}
    {path : String} (held : loader.registry.get? key = some inst)
    (forgotten : path ∈ (Loader.watchInstance workspace observed inst).report.untracked) :
    (watch workspace observed).Forgets loader key path := by
  refine ⟨_, Loader.mem_reports_watchRun.mpr ⟨inst, held, rfl, ?_⟩, forgotten⟩
  cases untracked : (Loader.watchInstance workspace observed inst).report.untracked with
  | nil => simp [untracked] at forgotten
  | cons => simp [WatchReport.isEmpty, untracked]

/-- Compiling a content in an instance gives a result. -/
def Gives (loader : Loader) (key content : String) (result : EmitResult) : LoaderCall → Prop
  | .compile workspace factory compiler session sources request =>
    loader.registry.keyFor session sources = key ∧ request.content = content ∧
      (loader.compile workspace factory compiler session sources request).result = .ok result
  | _ => False

/-- A compilation reports no file as forgotten. -/
theorem Gives.not_forgets {content path : String} {result : EmitResult} {call : LoaderCall}
    (given : call.Gives loader key content result) : ¬ call.Forgets loader key path := by
  cases call with
  | compile => exact not_false
  | watch => exact given.elim
  | takeModified => exact given.elim

end LoaderCall

namespace Loader

variable {loader : Loader} {key : String}

/-- The record that an instance has of a file. -/
def recordOf? (loader : Loader) (key path : String) : Option FileRecord :=
  (loader.registry.get? key).bind (·.state.files.get? path)

/-- The content that an instance holds for a file. -/
def contentOf? (loader : Loader) (key path : String) : Option String :=
  (loader.recordOf? key path).bind (·.content)

/-- Some watch pass of a history reports that an instance forgot a file. -/
def Forgotten (key path : String) : Loader → List LoaderCall → Prop
  | _, [] => False
  | loader, call :: calls =>
    call.Forgets loader key path ∨ Forgotten key path (loader.apply call) calls

/-- A file is forgotten in a history if it is forgotten before the last call or by it. -/
theorem forgotten_concat {path : String} {calls : List LoaderCall} {call : LoaderCall} :
    loader.Forgotten key path (calls ++ [call]) ↔
      loader.Forgotten key path calls ∨ call.Forgets (loader.run calls) key path := by
  induction calls generalizing loader with
  | nil => simp [Forgotten, run]
  | cons head calls ih => simp [Forgotten, run, ih, or_assoc]

/-- The files of an instance go through operations in a call, which ends the tracking of no
file but those that it reports as forgotten. -/
theorem files_apply (keyed : loader.registry.Keyed) {inst : Instance}
    (held : loader.registry.get? key = some inst) (call : LoaderCall) :
    ∃ next ops, (loader.apply call).registry.get? key = some next ∧
      next.state.files = inst.state.files.run ops ∧
      ∀ path, .untrack path ∈ ops → call.Forgets loader key path := by
  have untouched : ∃ next ops, loader.registry.get? key = some next ∧
      next.state.files = inst.state.files.run ops ∧
      ∀ path, .untrack path ∈ ops → call.Forgets loader key path :=
    ⟨inst, [], held, rfl, by simp⟩
  cases call with
  | compile workspace factory compiler session sources request =>
    simp only [apply]
    rcases compile_cases keyed workspace factory compiler session sources request with
      ⟨_, _, same⟩ | ⟨opened, opens, _, after⟩
    · rw [same]
      exact untouched
    · rw [after]
      split
      · next aimed =>
        subst aimed
        obtain rfl := opens.eq_of_held held
        exact ⟨_, _, rfl, EmitRequest.files_emit .., by simp⟩
      · exact untouched
  | watch workspace observed =>
    refine ⟨_, _, (get?_watchRun workspace observed key).trans (congrArg _ held),
      InstanceState.files_reconcile .., ?_⟩
    intro path member
    exact LoaderCall.forgets_watch held ((InstanceState.untrack_mem_reconcile_iff ..).mp member)
  | takeModified target =>
    rw [get?_takeModified keyed]
    split
    · exact ⟨_, [.drain], congrArg _ held, rfl, by simp⟩
    · exact untouched

/-- The files of an instance go through operations in a history, which ends the tracking of
no file but those that are reported as forgotten. -/
theorem files_run (keyed : loader.registry.Keyed) {inst : Instance}
    (held : loader.registry.get? key = some inst) (calls : List LoaderCall) :
    ∃ next ops, (loader.run calls).registry.get? key = some next ∧
      next.state.files = inst.state.files.run ops ∧
      ∀ path, .untrack path ∈ ops → loader.Forgotten key path calls := by
  induction calls generalizing loader inst with
  | nil => exact ⟨inst, [], held, rfl, by simp⟩
  | cons call calls ih =>
    obtain ⟨middle, ops, middleHeld, filesEq, forgets⟩ := files_apply keyed held call
    obtain ⟨next, others, nextHeld, nextEq, forgotten⟩ := ih (keyed_apply keyed call) middleHeld
    refine ⟨next, ops ++ others, nextHeld, ?_, ?_⟩
    · rw [nextEq, filesEq, FileStore.run_append]
    · intro path member
      rcases List.mem_append.mp member with early | late
      · exact .inl (forgets path early)
      · exact .inr (forgotten path late)

/-- A history leads every instance to a state that is reached. -/
theorem reached_run {calls : List LoaderCall} {inst : Instance}
    (held : ((∅ : Loader).run calls).registry.get? key = some inst) : inst.state.Reached := by
  have made : ∀ inst : Instance, inst.state = ∅ → inst.state.Reached := by
    intro inst empty
    rw [empty]
    exact .created
  have kept : ∀ inst next : Instance, inst.state.Reached → inst.Step next →
      next.state.Reached := by
    intro inst next reached step
    cases step with
    | compiled workspace compiler request => exact .compiled reached ..
    | watched workspace observed => exact .watched reached ..
    | drained => exact .drained reached
  exact run_invariant made kept keyed_empty (by simp) calls held

/-- The files of an instance are proper after every history. -/
theorem files_proper {calls : List LoaderCall} {inst : Instance}
    (held : ((∅ : Loader).run calls).registry.get? key = some inst) :
    inst.state.files.Proper :=
  (reached_run held).proper

/-- While it is not forgotten, the records that an instance has of a file follow each other
in order. -/
theorem recordOf?_run_precedes {past calls : List LoaderCall} {path : String}
    {record : FileRecord} (known : (run ∅ past).recordOf? key path = some record)
    (kept : ¬ (run ∅ past).Forgotten key path calls) :
    ∃ later, ((run ∅ past).run calls).recordOf? key path = some later ∧
      record.Precedes later := by
  obtain ⟨inst, held, known⟩ := Option.bind_eq_some_iff.mp known
  obtain ⟨next, ops, nextHeld, filesEq, forgotten⟩ :=
    files_run (keyed_run keyed_empty past) held calls
  have keptRecord : .untrack path ∉ ops := fun member => kept (forgotten path member)
  obtain ⟨later, knownLater, precedes⟩ :=
    (files_proper held).get?_run_precedes keptRecord known
  refine ⟨later, ?_, precedes⟩
  rw [recordOf?, nextHeld, Option.bind_some, filesEq]
  exact knownLater

/-- What an instance has a record of, it holds the content of. -/
theorem contentOf?_of_recordOf? {past : List LoaderCall} {path : String}
    {record : FileRecord} (known : (run ∅ past).recordOf? key path = some record) :
    ∃ content, record.content = some content ∧
      (run ∅ past).contentOf? key path = some content := by
  obtain ⟨inst, held, knownRecord⟩ := Option.bind_eq_some_iff.mp known
  obtain ⟨content, holds⟩ :=
    Option.isSome_iff_exists.mp (files_proper held path record knownRecord).filled
  exact ⟨content, holds, by simp [contentOf?, known, holds]⟩

end Loader

namespace LoaderCall

variable {loader : Loader} {call : LoaderCall} {key content path : String}
  {result : EmitResult}

/-- When a result is given, the instance holds the content of the request, and its files
have the versions that the result reports. -/
theorem Gives.holds (keyed : loader.registry.Keyed)
    (given : call.Gives loader key content result) :
    (loader.apply call).contentOf? key result.path = some content ∧
      ∀ path version, result.Reports path version → ∃ record,
        (loader.apply call).recordOf? key path = some record ∧ record.version = version := by
  cases call with
  | compile workspace factory compiler session sources request =>
    obtain ⟨rfl, rfl, success⟩ := given
    rcases Loader.compile_cases keyed workspace factory compiler session sources request with
      ⟨_, failed, _⟩ | ⟨inst, _, resultEq, after⟩
    · simp [failed] at success
    · have emitted := resultEq.symm.trans success
      have held := (after _).trans (if_pos rfl)
      simp only [Loader.contentOf?, Loader.recordOf?, Loader.apply, held, Option.bind_some]
      refine ⟨EmitRequest.contentOf?_of_emit_eq_ok emitted, ?_⟩
      intro path version reported
      exact Option.map_eq_some_iff.mp (EmitRequest.versionOf?_of_emit_eq_ok emitted reported)
  | watch => exact given.elim
  | takeModified => exact given.elim

/-- A file that the instance does not track is compiled at version 1. -/
theorem Gives.fileVersion_of_absent (keyed : loader.registry.Keyed)
    (given : call.Gives loader key content result)
    (absent : loader.recordOf? key result.path = none) : result.fileVersion = 1 := by
  cases call with
  | compile workspace factory compiler session sources request =>
    obtain ⟨rfl, rfl, success⟩ := given
    rcases Loader.compile_cases keyed workspace factory compiler session sources request with
      ⟨_, failed, _⟩ | ⟨inst, opens, resultEq, _⟩
    · simp [failed] at success
    · obtain ⟨pathEq, versionEq, _⟩ := EmitRequest.emit_eq_ok (resultEq.symm.trans success)
      have unknown : inst.state.files.get? (request.path workspace inst.options) = none := by
        rw [← pathEq]
        cases opens with
        | known held => exact Option.bind_eq_none_iff.mp absent inst held
        | made _ _ _ => exact FileStore.get?_empty _
      rw [versionEq, FileStore.updatedVersion, FileStore.recordOf, unknown]
      rfl
  | watch => exact given.elim
  | takeModified => exact given.elim

/-- A file that a pass reports as forgotten has no record afterwards. -/
theorem Forgets.absent (forgotten : call.Forgets loader key path) :
    (loader.apply call).recordOf? key path = none := by
  cases call with
  | watch workspace observed =>
    obtain ⟨report, reported, member⟩ := forgotten
    obtain ⟨inst, held, rfl, _⟩ := Loader.mem_reports_watchRun.mp reported
    rw [Loader.recordOf?, Loader.apply, Loader.get?_watchRun, held]
    exact InstanceState.get?_reconcile_of_untracked workspace _ _ observed member
  | compile => exact forgotten.elim
  | takeModified => exact forgotten.elim

end LoaderCall

namespace Loader

/-- Where nothing is compiled, no file is tracked anew. -/
theorem recordOf?_apply_of_absent {loader : Loader} (keyed : loader.registry.Keyed)
    {call : LoaderCall} {key path : String} (noCompile : call.isCompile = false)
    (absent : loader.recordOf? key path = none) :
    (loader.apply call).recordOf? key path = none := by
  rw [recordOf?, Option.bind_eq_none_iff] at absent ⊢
  intro next held
  cases call with
  | compile => cases noCompile
  | watch workspace observed =>
    rw [apply, get?_watchRun] at held
    obtain ⟨inst, known, rfl⟩ := Option.map_eq_some_iff.mp held
    exact inst.state.get?_reconcile_of_absent workspace _ observed (absent inst known)
  | takeModified target =>
    rw [get?_takeModified keyed] at held
    split at held
    · obtain ⟨inst, known, rfl⟩ := Option.map_eq_some_iff.mp held
      exact absent inst known
    · exact absent next held

private theorem recordOf?_run_of_absent {loader : Loader} (keyed : loader.registry.Keyed)
    {calls : List LoaderCall} {key path : String}
    (noCompile : ∀ call ∈ calls, call.isCompile = false)
    (absent : loader.recordOf? key path = none) :
    (loader.run calls).recordOf? key path = none := by
  induction calls generalizing loader with
  | nil => exact absent
  | cons call calls ih =>
    obtain ⟨headNoCompile, tailNoCompile⟩ := List.forall_mem_cons.mp noCompile
    exact ih (keyed_apply keyed call) tailNoCompile
      (recordOf?_apply_of_absent keyed headNoCompile absent)

/-- A forgotten file has no record until something is compiled. -/
theorem recordOf?_run_of_forgotten {loader : Loader} (keyed : loader.registry.Keyed)
    {calls : List LoaderCall} {key path : String}
    (noCompile : ∀ call ∈ calls, call.isCompile = false)
    (forgotten : loader.Forgotten key path calls) :
    (loader.run calls).recordOf? key path = none := by
  induction calls generalizing loader with
  | nil => exact forgotten.elim
  | cons call calls ih =>
    obtain ⟨_, tailNoCompile⟩ := List.forall_mem_cons.mp noCompile
    rcases forgotten with now | later
    · exact recordOf?_run_of_absent (keyed_apply keyed call) tailNoCompile now.absent
    · exact ih (keyed_apply keyed call) tailNoCompile later

section TwoResults

variable {past between : List LoaderCall} {first second : LoaderCall}
  {key earlierContent laterContent : String} {earlier later : EmitResult}

/-- One version of a file stands for one content between two results, unless the file was
forgotten. -/
private theorem content_eq_of_reports {path : String} {version : Nat}
    (given : first.Gives (run ∅ past) key earlierContent earlier)
    (givenLater :
      second.Gives (((run ∅ past).apply first).run between) key laterContent later)
    (reported : earlier.Reports path version) (reportedLater : later.Reports path version)
    (kept : ¬ ((run ∅ past).apply first).Forgotten key path between) :
    ∃ content, ((run ∅ past).apply first).contentOf? key path = some content ∧
      ((((run ∅ past).apply first).run between).apply second).contentOf? key path =
        some content := by
  have startEq : (run ∅ past).apply first = run ∅ (past ++ [first]) :=
    (run_append ∅ past [first]).symm
  rw [startEq] at givenLater kept ⊢
  have endEq : ((run ∅ (past ++ [first])).run between).apply second =
      (run ∅ (past ++ [first])).run (between ++ [second]) :=
    (run_append _ between [second]).symm
  obtain ⟨_, versions⟩ := given.holds (keyed_run keyed_empty past)
  obtain ⟨_, laterVersions⟩ :=
    givenLater.holds (keyed_run (keyed_run keyed_empty (past ++ [first])) between)
  obtain ⟨record, known, versionEq⟩ := versions path version reported
  obtain ⟨last, lastKnown, lastVersionEq⟩ := laterVersions path version reportedLater
  rw [startEq] at known
  rw [endEq] at lastKnown ⊢
  have keptToEnd : ¬ (run ∅ (past ++ [first])).Forgotten key path (between ++ [second]) := by
    intro forgotten
    rcases forgotten_concat.mp forgotten with early | late
    · exact kept early
    · exact givenLater.not_forgets late
  obtain ⟨_, found, precedes⟩ := recordOf?_run_precedes known keptToEnd
  obtain rfl := Option.some.inj (found.symm.trans lastKnown)
  obtain rfl := precedes.eq_of_version_eq (versionEq.trans lastVersionEq.symm)
  obtain ⟨content, holds, heldContent⟩ := contentOf?_of_recordOf? known
  exact ⟨content, heldContent, by simp [contentOf?, lastKnown, holds]⟩

/-- Two results of an instance that report one version of a file tell of one content, unless
the file was forgotten between them. So two contents of a file are compiled at two versions,
unless it was forgotten between. If it was, and nothing was compiled between, the second
version is 1 whatever the content. -/
theorem stamps_identify_contents
    (given : first.Gives (run ∅ past) key earlierContent earlier)
    (givenLater :
      second.Gives (((run ∅ past).apply first).run between) key laterContent later) :
    (∀ path version, earlier.Reports path version → later.Reports path version →
      ¬ ((run ∅ past).apply first).Forgotten key path between →
      ∃ content, ((run ∅ past).apply first).contentOf? key path = some content ∧
        ((((run ∅ past).apply first).run between).apply second).contentOf? key path =
          some content) ∧
    (earlier.path = later.path → earlierContent ≠ laterContent →
      ¬ ((run ∅ past).apply first).Forgotten key later.path between →
      earlier.fileVersion ≠ later.fileVersion) ∧
    ((∀ call ∈ between, call.isCompile = false) →
      ((run ∅ past).apply first).Forgotten key later.path between →
      later.fileVersion = 1) := by
  have keyedStart := keyed_run keyed_empty past
  have keyedFirst := keyed_apply keyedStart first
  have keyedLater := keyed_run keyedFirst between
  refine ⟨fun _ _ => content_eq_of_reports given givenLater, ?_, ?_⟩
  · intro samePath different kept sameVersion
    have reported : earlier.Reports later.path later.fileVersion := by
      rw [← samePath, ← sameVersion]
      exact .compiled
    obtain ⟨content, heldContent, laterHeldContent⟩ :=
      content_eq_of_reports given givenLater reported .compiled kept
    have earlierEq := (given.holds keyedStart).1
    have laterEq := (givenLater.holds keyedLater).1
    rw [samePath, heldContent] at earlierEq
    rw [laterHeldContent] at laterEq
    exact different (Option.some.inj (earlierEq.symm.trans laterEq))
  · intro noCompile forgotten
    exact givenLater.fileVersion_of_absent keyedLater
      (recordOf?_run_of_forgotten keyedFirst noCompile forgotten)

end TwoResults

/-- A directory of which no file can be read. -/
def bareWorkspace : Workspace :=
  ⟨"/", ⟨fun _ => .error .notFound, fun _ => false⟩⟩

/-- Options that forget what cannot be read. -/
def forgetfulSources : OptionSources :=
  ⟨∅, ⟨(∅ : Json.Members).insert "watchUnreadable" (.string "untrack")⟩⟩

/-- A compiler that asks nothing and gives one script. -/
def scriptCompiler : Compiler :=
  ⟨fun _ => .done (.ok ⟨[⟨"a.js", ""⟩], []⟩), fun _ => .ok ⟨some "", none, []⟩⟩

/-- Compiling a content for `/a.ts` where nothing else is known. -/
def compileAlone (content : String) : LoaderCall :=
  .compile bareWorkspace (fun _ => .ok ()) scriptCompiler ⟨0⟩ forgetfulSources
    (.plain (.ofString "/a.ts") content)

private theorem compileAlone_gives {loader : Loader} {content path : String}
    (aimed : loader.registry.keyFor ⟨0⟩ forgetfulSources = key)
    (checked : (loader.compile bareWorkspace (fun _ => .ok ()) scriptCompiler ⟨0⟩
      forgetfulSources (.plain (.ofString "/a.ts") content)).result.toOption.map (·.path) =
        some path) :
    ∃ result, (compileAlone content).Gives loader key content result ∧ result.path = path := by
  obtain ⟨result, success, pathEq⟩ := exists_ok_of_map_toOption checked
  exact ⟨result, ⟨aimed, rfl, success⟩, pathEq⟩

/-- A file is compiled, forgotten, and compiled with another content. Both results report the
same version of it. -/
theorem stamp_repeats_for_forgotten_file :
    ∃ earlier later : EmitResult,
      (compileAlone "one").Gives (run ∅ []) "0_default" "one" earlier ∧
      (compileAlone "two").Gives (((run ∅ []).apply (compileAlone "one")).run
        [.watch bareWorkspace [.ofString "/a.ts"]]) "0_default" "two" later ∧
      (earlier.path = "/a.ts" ∧ earlier.fileVersion = 1) ∧
      (later.path = "/a.ts" ∧ later.fileVersion = 1) := by
  obtain ⟨earlier, given, pathEq⟩ : ∃ result,
      (compileAlone "one").Gives (run ∅ []) "0_default" "one" result ∧ result.path = "/a.ts" :=
    compileAlone_gives (by decide +kernel) (by decide +kernel)
  obtain ⟨later, givenLater, laterPathEq⟩ : ∃ result,
      (compileAlone "two").Gives (((run ∅ []).apply (compileAlone "one")).run
        [.watch bareWorkspace [.ofString "/a.ts"]]) "0_default" "two" result ∧
      result.path = "/a.ts" :=
    compileAlone_gives (by decide +kernel) (by decide +kernel)
  have absent : (run ∅ []).recordOf? "0_default" earlier.path = none := rfl
  have forgotten : (LoaderCall.watch bareWorkspace [.ofString "/a.ts"]).Forgets
      ((run ∅ []).apply (compileAlone "one")) "0_default" "/a.ts" :=
    ⟨⟨[], ["/a.ts"]⟩, by decide +kernel, by decide⟩
  refine ⟨earlier, later, given, givenLater, ⟨pathEq, ?_⟩, laterPathEq, ?_⟩
  · exact given.fileVersion_of_absent keyed_empty absent
  · refine (stamps_identify_contents given givenLater).2.2 (by simp [LoaderCall.isCompile]) ?_
    rw [laterPathEq]
    exact .inl forgotten

end Loader

end ScriptLoader
