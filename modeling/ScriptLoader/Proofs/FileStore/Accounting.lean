import Mathlib.Algebra.BigOperators.Group.Finset.Basic
import Mathlib.Algebra.GroupWithZero.Nat
import Mathlib.Algebra.Order.BigOperators.Group.Finset
import ScriptLoader.Proofs.Collection
import ScriptLoader.Proofs.FileStore.Frame
import ScriptLoader.Proofs.FileStore.Version

/-!
# What the program version counts

Every change that the program version counts is a step of the version of one file, and no
version moves without being counted. So the program version is the sum of the versions of all
records, those included that are no longer tracked. `account_apply` is this balance for one
operation and `account_run` for a history. Where no tracking ends, `Growth` follows: the
program version moves with the versions of the files, and if it stands still they all do.
-/

namespace ScriptLoader.FileStore

/-- The version of a file; a file without a record counts as being at version 0. -/
def versionAt (store : FileStore) (path : String) : Nat :=
  (store.versionOf? path).getD 0

/-- The sum of the versions of all records. -/
def totalVersion (store : FileStore) : Nat :=
  (store.all.map (·.version)).sum

/-- The records that an operation gives back because their files are no longer tracked. -/
def Op.released (store : FileStore) (op : Op) : List FileRecord :=
  match op, (store.apply op).2 with
  | .untrack _, .record (some record) => [record]
  | _, _ => []

/-- The records that the operations of a history give back because their files are no longer
tracked. -/
def released (store : FileStore) : List Op → List FileRecord
  | [] => []
  | op :: ops => op.released store ++ (store.apply op).1.released ops

/-- How far the versions of all records are ahead of those in an earlier store; the version of
a new record counts from 0. -/
def growthSince (store earlier : FileStore) : Nat :=
  (store.paths.map fun path => store.versionAt path - earlier.versionAt path).sum

/-- The version of a file is that of its record. -/
theorem versionAt_eq (store : FileStore) (path : String) :
    store.versionAt path = ((store.get? path).map (·.version)).getD 0 := rfl

/-- A file with a record has the version of the record. -/
theorem versionAt_of_get? {store : FileStore} {path : String} {record : FileRecord}
    (known : store.get? path = some record) : store.versionAt path = record.version := by
  simp [versionAt_eq, known]

/-- A file without a record is at version 0. -/
theorem versionAt_of_absent {store : FileStore} {path : String}
    (absent : store.get? path = none) : store.versionAt path = 0 := by
  simp [versionAt_eq, absent]

section Totals

variable {store : FileStore}

/-- No path is listed twice. -/
theorem nodup_paths (store : FileStore) : store.paths.Nodup := by
  refine List.Pairwise.imp ?_ Std.ExtTreeMap.distinct_keys
  intro first second different same
  exact different (Std.LawfulEqCmp.compare_eq_iff_eq.mpr same)

/-- The versions of the records are those of the tracked files. -/
theorem map_version_all (store : FileStore) :
    store.all.map (·.version) = store.paths.map store.versionAt := by
  rw [all, paths, Collection.values_eq_map_toList, ← Std.ExtTreeMap.map_fst_toList_eq_keys,
    List.map_map, List.map_map]
  apply List.map_congr_left
  intro entry among
  exact (versionAt_of_get? (Std.ExtTreeMap.mem_toList_iff_getElem?_eq_some.mp among)).symm

/-- The sum of all versions may be taken over any set of paths that has all tracked files. -/
theorem totalVersion_eq_sum {paths : Finset String}
    (covered : ∀ path, store.contains path = true → path ∈ paths) :
    store.totalVersion = ∑ path ∈ paths, store.versionAt path := by
  have subset : store.paths.toFinset ⊆ paths := by
    intro path among
    exact covered path (mem_paths_iff.mp (List.mem_toFinset.mp among))
  rw [totalVersion, map_version_all, ← List.sum_toFinset _ store.nodup_paths]
  apply Finset.sum_subset subset
  intro path _ untracked
  apply versionAt_of_absent
  rw [List.mem_toFinset, mem_paths_iff] at untracked
  simpa [contains] using untracked

/-- Where two stores agree on all files but one, their sums differ by the versions of that
file. -/
theorem totalVersion_add_of_agree {next : FileStore} {path : String}
    (agree : ∀ other, other ≠ path → next.versionAt other = store.versionAt other) :
    next.totalVersion + store.versionAt path = store.totalVersion + next.versionAt path := by
  let paths := insert path (store.paths.toFinset ∪ next.paths.toFinset)
  have among : path ∈ paths := Finset.mem_insert_self ..
  have covers : ∀ other, store.contains other = true → other ∈ paths := by
    intro other tracked
    simp [paths, mem_paths_iff, tracked]
  have coversNext : ∀ other, next.contains other = true → other ∈ paths := by
    intro other tracked
    simp [paths, mem_paths_iff, tracked]
  have rest : ∑ other ∈ paths.erase path, next.versionAt other =
      ∑ other ∈ paths.erase path, store.versionAt other :=
    Finset.sum_congr rfl fun other member => agree other (Finset.ne_of_mem_erase member)
  rw [totalVersion_eq_sum covers, totalVersion_eq_sum coversNext,
    ← Finset.add_sum_erase paths _ among, ← Finset.add_sum_erase paths _ among, rest]
  omega

end Totals

section Balance

/-- Supplying another content moves a record by one version, supplying the same content does not. -/
theorem version_supplied (record : FileRecord) (content : String) :
    (record.supplied content).version =
      record.version + if record.hasContent content then 0 else 1 := by
  unfold FileRecord.supplied
  split <;> rfl

/-- The record that an operation starts from has the version of its file. -/
theorem version_recordOf (store : FileStore) (path : String) :
    (store.recordOf path).version = store.versionAt path := by
  rw [recordOf, versionAt_eq]
  cases store.get? path <;> rfl

/-- Reading a file leaves its version. -/
theorem version_loaded {known : Option FileRecord} {path : String}
    {reading : Except DiskError String} :
    ((((known.getD (.blank path)).loaded? reading).or known).map (·.version)).getD 0 =
      (known.map (·.version)).getD 0 := by
  cases known with
  | none => cases reading <;> rfl
  | some record =>
    unfold FileRecord.loaded?
    rw [Option.getD_some]
    cases record.content <;> cases reading <;> rfl

/-- The version of a file moves by the changes that an operation on it counts, and is lost
only with a record that is given back. -/
theorem versionAt_apply (store : FileStore) {op : Op} {path : String}
    (aimed : op.target? = some path) :
    (store.apply op).1.versionAt path + ((op.released store).map (·.version)).sum =
      store.versionAt path + op.changes store := by
  rw [versionAt_eq, get?_apply]
  cases op with
  | update target content =>
    obtain rfl : target = path := by simpa [Op.target?] using aimed
    simp only [Op.onRecord, if_true, Option.map_some, Option.getD_some, version_supplied]
    rw [← recordOf, version_recordOf]
    rfl
  | refresh target content =>
    obtain rfl : target = path := by simpa [Op.target?] using aimed
    rw [versionAt_eq]
    cases known : store.get? target with
    | none => simp [Op.onRecord, Op.released, Op.changes, contains, known]
    | some record =>
      simp [Op.onRecord, Op.released, Op.changes, contains, known, FileRecord.change]
  | track disk target =>
    obtain rfl : target = path := by simpa [Op.target?] using aimed
    simp only [Op.onRecord, if_true, version_loaded]
    rfl
  | untrack target =>
    obtain rfl : target = path := by simpa [Op.target?] using aimed
    rw [versionAt_eq]
    cases known : store.get? target <;>
      simp [Op.onRecord, Op.released, Op.changes, apply, known]
  | drain => simp [Op.target?] at aimed

/-- An operation leaves the program version and the versions of the files in balance. -/
theorem account_apply (store : FileStore) (op : Op) :
    (store.apply op).1.programVersion + store.totalVersion =
      store.programVersion +
        ((store.apply op).1.totalVersion + ((op.released store).map (·.version)).sum) := by
  rw [programVersion_apply]
  cases aim : op.target? with
  | none =>
    obtain rfl : op = .drain := by cases op <;> simp [Op.target?] at aim ⊢
    rfl
  | some path =>
    have moved := store.versionAt_apply aim
    have agree : ∀ other, other ≠ path →
        (store.apply op).1.versionAt other = store.versionAt other := by
      intro other different
      have elsewhere : op.target? ≠ some other := by
        rw [aim]
        rintro ⟨⟩
        exact different rfl
      rw [versionAt_eq, get?_apply, Op.onRecord_of_other elsewhere, versionAt_eq]
    have totals := totalVersion_add_of_agree agree
    omega

/-- A history leaves the program version and the versions of the files in balance. -/
theorem account_run (store : FileStore) (ops : List Op) :
    (store.run ops).programVersion + store.totalVersion =
      store.programVersion +
        ((store.run ops).totalVersion + ((store.released ops).map (·.version)).sum) := by
  induction ops generalizing store with
  | nil => simp [released]
  | cons op ops ih =>
    have first := store.account_apply op
    have others := ih (store.apply op).1
    rw [run_cons, released, List.map_append, List.sum_append]
    omega

/-- No history turns the program version back. -/
theorem programVersion_run_le (store : FileStore) (ops : List Op) :
    store.programVersion ≤ (store.run ops).programVersion := by
  induction ops generalizing store with
  | nil => exact Nat.le_refl _
  | cons op ops ih =>
    have first := store.programVersion_apply op
    have others := ih (store.apply op).1
    rw [run_cons]
    omega

/-- Operations that end no tracking give no records back. -/
theorem released_of_kept {store : FileStore} {ops : List Op}
    (kept : ∀ path, .untrack path ∉ ops) : store.released ops = [] := by
  induction ops generalizing store with
  | nil => rfl
  | cons op ops ih =>
    have headKept : op.released store = [] := by
      cases op with
      | untrack path => exact absurd (List.mem_cons_self ..) (kept path)
      | _ => rfl
    have tailKept : ∀ path, .untrack path ∉ ops :=
      fun path member => kept path (List.mem_cons_of_mem op member)
    rw [released, headKept, ih tailKept, List.nil_append]

end Balance

section Growth

/-- What becomes of a store while no tracking ends. -/
structure Growth (earlier later : FileStore) : Prop where
  /-- Tracked files stay tracked, and no version falls. -/
  stays : ∀ path record, earlier.get? path = some record →
    ∃ next, later.get? path = some next ∧ record.version ≤ next.version
  /-- The program version grows by as much as the versions of all files together. -/
  programVersion_eq : later.programVersion = earlier.programVersion + later.growthSince earlier
  /-- If it does not grow, every file keeps its version and its content. -/
  records_eq : later.programVersion = earlier.programVersion →
    ∀ path record, earlier.get? path = some record → later.get? path = some record

variable {store : FileStore} {ops : List Op}

/-- As long as a file is not untracked, its version never falls. -/
theorem Proper.versionAt_run_le (proper : store.Proper) {path : String}
    (kept : .untrack path ∉ ops) : store.versionAt path ≤ (store.run ops).versionAt path := by
  cases known : store.get? path with
  | none =>
    rw [versionAt_of_absent known]
    exact Nat.zero_le _
  | some record =>
    obtain ⟨later, held, precedes⟩ := proper.get?_run_precedes kept known
    rw [versionAt_of_get? known, versionAt_of_get? held]
    exact precedes.version_le

/-- The growth of the versions is the difference of their sums. -/
theorem Proper.totalVersion_run (proper : store.Proper) (kept : ∀ path, .untrack path ∉ ops) :
    (store.run ops).totalVersion = store.totalVersion + (store.run ops).growthSince store := by
  have covers : ∀ path, (store.run ops).contains path = true →
      path ∈ (store.run ops).paths.toFinset := by
    intro path tracked
    exact List.mem_toFinset.mpr (mem_paths_iff.mpr tracked)
  have coversEarlier : ∀ path, store.contains path = true →
      path ∈ (store.run ops).paths.toFinset :=
    fun path tracked => covers path (proper.contains_run (kept path) tracked)
  rw [growthSince, ← List.sum_toFinset _ (store.run ops).nodup_paths,
    totalVersion_eq_sum covers, totalVersion_eq_sum coversEarlier, ← Finset.sum_add_distrib]
  apply Finset.sum_congr rfl
  intro path _
  have bound := proper.versionAt_run_le (kept path)
  omega

/-- Without untracking, a history makes a store grow. -/
theorem Proper.growth_run (proper : store.Proper) (kept : ∀ path, .untrack path ∉ ops) :
    Growth store (store.run ops) := by
  have counted : (store.run ops).programVersion =
      store.programVersion + (store.run ops).growthSince store := by
    have balance := store.account_run ops
    have total := proper.totalVersion_run kept
    rw [released_of_kept kept] at balance
    simp only [List.map_nil, List.sum_nil] at balance
    omega
  refine ⟨?_, counted, ?_⟩
  · intro path record known
    obtain ⟨later, held, precedes⟩ := proper.get?_run_precedes (kept path) known
    exact ⟨later, held, precedes.version_le⟩
  · intro still path record known
    obtain ⟨later, held, precedes⟩ := proper.get?_run_precedes (kept path) known
    have noGrowth : (store.run ops).growthSince store = 0 := by omega
    -- No summand of the growth is positive, so the version of this file stands still.
    have tracked : path ∈ (store.run ops).paths := by
      rw [mem_paths_iff, contains, held]
      rfl
    have stands : (store.run ops).versionAt path - store.versionAt path = 0 :=
      List.sum_eq_zero_iff.mp noGrowth _ (List.mem_map_of_mem tracked)
    rw [versionAt_of_get? held, versionAt_of_get? known] at stands
    have bound := precedes.version_le
    rw [held, precedes.eq_of_version_eq (by omega)]

end Growth

/-- A refused operation changes nothing. -/
theorem apply_of_refused {store : FileStore} {op : Op} {cause : CacheError}
    (refused : (store.apply op).2 = .refused cause) : (store.apply op).1 = store := by
  cases op with
  | update path content => simp [apply] at refused
  | refresh path content =>
    simp only [apply] at refused ⊢
    cases outcome : store.refresh path content with
    | ok moved => simp [outcome] at refused
    | error refusal => rfl
  | track disk path =>
    simp only [apply] at refused ⊢
    cases outcome : store.track disk path with
    | ok read => simp [outcome] at refused
    | error refusal => rfl
  | untrack path => simp [apply] at refused
  | drain => simp [apply] at refused

/-- The program version counts the versions of all records that there are or were. It never
falls, and where no tracking ends it grows with the versions of the files. A refused
operation changes nothing. -/
theorem programVersion_accounts (past between : List Op) :
    (run ∅ past).programVersion =
        (run ∅ past).totalVersion + ((released ∅ past).map (·.version)).sum ∧
      (run ∅ past).programVersion ≤ ((run ∅ past).run between).programVersion ∧
      ((∀ path, .untrack path ∉ between) →
        Growth (run ∅ past) ((run ∅ past).run between)) ∧
      ∀ op cause, ((run ∅ past).apply op).2 = .refused cause →
        ((run ∅ past).apply op).1 = run ∅ past := by
  have proper : (run ∅ past).Proper := empty_proper.run past
  refine ⟨?_, programVersion_run_le _ between, proper.growth_run, fun _ _ => apply_of_refused⟩
  have balance := account_run ∅ past
  have noVersion : (∅ : FileStore).totalVersion = 0 := rfl
  have noChange : (∅ : FileStore).programVersion = 0 := rfl
  omega

end ScriptLoader.FileStore
