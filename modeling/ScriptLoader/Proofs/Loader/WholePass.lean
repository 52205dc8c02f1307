import ScriptLoader.Proofs.Instance.WatchPass
import ScriptLoader.Proofs.Loader.Instances

/-!
# A watch pass over all instances

A pass visits the instances one by one, each with the policy of its own options, and none of
them sees another. `WholePass` says which reports come back and in which order, and what becomes
of every instance. The key under which an instance is kept is its own (`Registry.Keyed`), so
reports and events bear the keys of the instances themselves (`Visits`). A report is left out
exactly if the pass did nothing to the instance: a file that is looked at moves by a version or
loses its record, so an empty report means that none was looked at.
-/

namespace ScriptLoader

/-- An empty report names no file. -/
theorem WatchReport.isEmpty_iff {report : WatchReport} :
    report.isEmpty = true ↔ report.refreshed = [] ∧ report.untracked = [] := by
  simp [isEmpty]

namespace InstanceState

variable {workspace : Workspace} {policy : UnreadablePolicy} {state : InstanceState}
  {observed : List RawPath}

/-- A pass reports all files that it looks at. -/
theorem looked_eq_nil_of_isEmpty
    (idle : (state.reconcile workspace policy observed).report.isEmpty = true) :
    state.looked workspace observed = [] := by
  obtain ⟨noneRefreshed, noneUntracked⟩ := WatchReport.isEmpty_iff.mp idle
  refine List.eq_nil_iff_forall_not_mem.mpr ?_
  intro path looked
  have due := mem_looked_iff.mp looked
  by_cases givenUp : GivenUp workspace.disk policy path
  · have untracked := mem_untracked_reconcile_iff.mpr ⟨due, givenUp⟩
    rw [noneUntracked] at untracked
    cases untracked
  · have refreshed := mem_refreshed_reconcile_iff.mpr ⟨due, givenUp⟩
    rw [noneRefreshed] at refreshed
    cases refreshed

/-- A pass with an empty report leaves the state as it was, and no other pass does. -/
theorem state_reconcile_eq_iff :
    (state.reconcile workspace policy observed).state = state ↔
      (state.reconcile workspace policy observed).report.isEmpty = true := by
  constructor
  · intro unchanged
    rw [WatchReport.isEmpty_iff]
    constructor
    · have counted := programVersion_reconcile workspace policy state observed
      rw [unchanged] at counted
      have length_eq : (state.reconcile workspace policy observed).report.refreshed.length = 0 := by
        omega
      exact List.eq_nil_of_length_eq_zero length_eq
    · refine List.eq_nil_iff_forall_not_mem.mpr ?_
      intro path untracked
      have tracked := (mem_untracked_reconcile_iff.mp untracked).1.isTracked
      have gone := (reconcile_of_untracked untracked).1
      rw [unchanged] at gone
      simp [FileStore.contains, gone] at tracked
  · intro idle
    have filesEq : (state.reconcile workspace policy observed).state.files = state.files := by
      rw [files_reconcile, looked_eq_nil_of_isEmpty idle]
      rfl
    have graphEq : (state.reconcile workspace policy observed).state.graph = state.graph := by
      rw [graph_reconcile, (WatchReport.isEmpty_iff.mp idle).2]
      rfl
    exact congrArg₂ InstanceState.mk filesEq graphEq

end InstanceState

/-- What a watch pass reports and tells of instances that it visits one after the other, by the
keys that the instances have themselves. -/
structure WatchRun.Visits (workspace : Workspace) (observed : List RawPath)
    (instances : List Instance) (outcome : WatchRun) : Prop where
  ordered : (instances.map Instance.key).Pairwise (· < ·)
  reports_eq : outcome.reports =
    (instances.map fun inst => (inst.key,
      (inst.state.reconcile workspace inst.options.watchUnreadable observed).report)).filter
        fun entry => !entry.2.isEmpty
  /-- The events of a pass are told, and then how much it did unless it did nothing. -/
  events_eq : outcome.events = instances.flatMap fun inst =>
    let pass := inst.state.reconcile workspace inst.options.watchUnreadable observed
    pass.events ++
      if pass.report.isEmpty then []
      else [⟨.debug, "Watch pass on " ++ inst.key ++ ": " ++
        toString pass.report.refreshed.length ++ " refreshed, " ++
        toString pass.report.untracked.length ++ " untracked"⟩]

/-- The outcome of a watch pass over all instances of a loader. -/
structure WholePass (workspace : Workspace) (observed : List RawPath) (before : Loader)
    (outcome : WatchRun) : Prop where
  /-- The reports come in the order of the keys, and no key has two. -/
  ordered : (outcome.reports.map (·.1)).Pairwise (· < ·)
  /-- No report is empty. -/
  worked : ∀ key report, (key, report) ∈ outcome.reports →
    report.refreshed ≠ [] ∨ report.untracked ≠ []
  /-- The report of an instance is that of a pass over it alone by its own policy; it is there
  unless it is empty. -/
  reported_iff : ∀ key report, (key, report) ∈ outcome.reports ↔
    ∃ inst, before.registry.get? key = some inst ∧
      report = (inst.state.reconcile workspace inst.options.watchUnreadable observed).report ∧
      report.isEmpty = false
  /-- Every instance is left as such a pass leaves it; none comes and none goes. -/
  instance_after : ∀ key, outcome.loader.registry.get? key =
    (before.registry.get? key).map fun inst =>
      { inst with
        state := (inst.state.reconcile workspace inst.options.watchUnreadable observed).state }
  /-- An instance is as it was before exactly if it is not in the reports. -/
  unreported_iff : ∀ key inst, before.registry.get? key = some inst →
    ((∀ report, (key, report) ∉ outcome.reports) ↔
      outcome.loader.registry.get? key = some inst)
  sessions_eq : outcome.loader.registry.sessions = before.registry.sessions
  /-- If every instance is kept under its own key, all of them are visited in the order of their
  keys, and these are the keys in the reports and in the events. -/
  visits : before.registry.Keyed → ∃ instances, outcome.Visits workspace observed instances ∧
    ∀ inst, inst ∈ instances ↔ before.registry.get? inst.key = some inst
  /-- A loader that keeps every instance under its own key goes on to do so. -/
  keyed : before.registry.Keyed → outcome.loader.registry.Keyed

/-- A registry lists its instances in the order of the keys under which they are kept. -/
theorem Registry.entries_ordered (registry : Registry) :
    registry.instances.toList.Pairwise (·.1 < ·.1) :=
  Collection.pairwise_lt_of_compare Std.ExtTreeMap.ordered_keys_toList

/-- A registry that keeps every instance under its own key lists its instances by their keys. -/
theorem Registry.Keyed.exists_toList_eq {registry : Registry} (keyed : registry.Keyed) :
    ∃ instances : List Instance,
      registry.instances.toList = instances.map (fun inst => (inst.key, inst)) ∧
      (instances.map Instance.key).Pairwise (· < ·) ∧
      ∀ inst, inst ∈ instances ↔ registry.get? inst.key = some inst := by
  have mem_entries_iff : ∀ entry, entry ∈ registry.instances.toList ↔
      registry.get? entry.1 = some entry.2 :=
    fun _ => Std.ExtTreeMap.mem_toList_iff_getElem?_eq_some
  have entriesEq : registry.instances.toList =
      (registry.instances.toList.map (·.2)).map fun inst => (inst.key, inst) := by
    rw [List.map_map]
    refine (List.map_id _).symm.trans (List.map_congr_left ?_)
    intro entry among
    exact Prod.ext (keyed _ _ ((mem_entries_iff entry).mp among)).symm rfl
  refine ⟨_, entriesEq, ?_, ?_⟩
  · have ordered := registry.entries_ordered
    rw [entriesEq, List.pairwise_map] at ordered
    exact List.pairwise_map.mpr ordered
  · intro inst
    rw [List.mem_map]
    constructor
    · rintro ⟨⟨key, inst⟩, among, rfl⟩
      have held := (mem_entries_iff _).mp among
      rwa [← keyed key inst held] at held
    · intro held
      exact ⟨(inst.key, inst), (mem_entries_iff _).mpr held, rfl⟩

namespace Loader

/-- The reports come in the order of the keys under which the instances are kept. -/
theorem reports_ordered (workspace : Workspace) (loader : Loader) (observed : List RawPath) :
    ((loader.watchRun workspace observed).reports.map (·.1)).Pairwise (· < ·) := by
  unfold watchRun
  rw [List.map_map, List.pairwise_map]
  refine List.Pairwise.filter _ ?_
  rw [List.pairwise_map]
  exact loader.registry.entries_ordered

/-- The events of a pass are told, and then how much it did unless it did nothing. -/
theorem watchEvents_eq (key : String) (pass : WatchOutcome) :
    watchEvents key pass = pass.events ++
      if pass.report.isEmpty then []
      else [⟨.debug, "Watch pass on " ++ key ++ ": " ++
        toString pass.report.refreshed.length ++ " refreshed, " ++
        toString pass.report.untracked.length ++ " untracked"⟩] := by
  unfold watchEvents
  split
  · rw [List.append_nil]
  · rfl

/-- In a loader that keeps every instance under its own key, a pass visits all instances in the
order of their keys. -/
theorem visits_watchRun {loader : Loader} (keyed : loader.registry.Keyed) (workspace : Workspace)
    (observed : List RawPath) :
    ∃ instances, (loader.watchRun workspace observed).Visits workspace observed instances ∧
      ∀ inst, inst ∈ instances ↔ loader.registry.get? inst.key = some inst := by
  obtain ⟨instances, entriesEq, ordered, mem_iff⟩ := keyed.exists_toList_eq
  refine ⟨instances, ⟨ordered, ?_, ?_⟩, mem_iff⟩
  · simp only [watchRun, entriesEq, List.map_map, List.filter_map]
    rfl
  · simp only [watchRun, entriesEq, List.map_map, List.flatMap_map]
    refine congrArg List.flatten (List.map_congr_left ?_)
    intro inst _
    exact watchEvents_eq inst.key (watchInstance workspace observed inst)

/-- A watch pass over a loader does to every instance what a pass over it alone does. -/
theorem watchRun_wholePass (workspace : Workspace) (loader : Loader) (observed : List RawPath) :
    WholePass workspace observed loader (loader.watchRun workspace observed) where
  ordered := reports_ordered workspace loader observed
  worked := by
    intro key report reported
    obtain ⟨_, _, _, notEmpty⟩ := mem_reports_watchRun.mp reported
    rw [← Bool.not_eq_true, WatchReport.isEmpty_iff] at notEmpty
    exact Decidable.not_and_iff_or_not.mp notEmpty
  reported_iff _ _ := mem_reports_watchRun
  instance_after := get?_watchRun workspace observed
  unreported_iff := by
    intro key inst held
    have unreported_iff : (∀ report,
        (key, report) ∉ (loader.watchRun workspace observed).reports) ↔
          (watchInstance workspace observed inst).report.isEmpty = true := by
      constructor
      · intro unreported
        cases idle : (watchInstance workspace observed inst).report.isEmpty with
        | true => rfl
        | false => exact absurd (mem_reports_watchRun.mpr ⟨inst, held, rfl, idle⟩) (unreported _)
      · intro idle report reported
        obtain ⟨other, otherHeld, rfl, notIdle⟩ := mem_reports_watchRun.mp reported
        obtain rfl := Option.some.inj (held.symm.trans otherHeld)
        rw [idle] at notIdle
        cases notIdle
    have same_iff : { inst with state := (watchInstance workspace observed inst).state } = inst ↔
        (watchInstance workspace observed inst).state = inst.state := by
      constructor
      · intro same
        exact congrArg Instance.state same
      · intro same
        rw [same]
    rw [get?_watchRun, held, Option.map_some, Option.some.injEq, unreported_iff, same_iff]
    exact InstanceState.state_reconcile_eq_iff.symm
  sessions_eq := rfl
  visits keyed := visits_watchRun keyed workspace observed
  keyed := fun keyed => keyed_apply keyed (.watch workspace observed)

end Loader

end ScriptLoader
