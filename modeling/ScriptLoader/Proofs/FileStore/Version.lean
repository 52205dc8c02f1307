import ScriptLoader.Proofs.FileStore.Effect

/-!
# Versions identify contents

As long as a file stays tracked, its version never falls, an operation moves it by one at
most, and equal versions mean equal contents. Reading from disk can fill a record without
moving its version; that this changes nothing rests on `Proper`: every record that a history
leaves already holds content.

What an operation does to a proper record is `onRecord_advances`, and `get?_run_precedes`
carries it over any stretch of a history.
-/

namespace ScriptLoader

namespace FileRecord

/-- A record as operations leave it: it stands under its own path and holds content. -/
structure Proper (path : String) (record : FileRecord) : Prop where
  ownPath : record.path = path
  filled : record.content.isSome

/-- What one operation makes of a record while its file stays tracked. -/
def Advances (record next : FileRecord) : Prop :=
  next = record ∨ next.version = record.version + 1

/-- The order of the records of one file in time: versions do not fall, and one version
stands for one record. -/
structure Precedes (earlier later : FileRecord) : Prop where
  version_le : earlier.version ≤ later.version
  eq_of_version_eq : earlier.version = later.version → earlier = later

/-- A record comes before itself. -/
theorem Precedes.refl (record : FileRecord) : record.Precedes record :=
  ⟨Nat.le_refl _, fun _ => rfl⟩

/-- What comes before an earlier record comes before the later ones. -/
theorem Precedes.trans {first second third : FileRecord} (early : first.Precedes second)
    (late : second.Precedes third) : first.Precedes third where
  version_le := Nat.le_trans early.version_le late.version_le
  eq_of_version_eq := by
    intro same
    have bound := early.version_le
    have limit := late.version_le
    have firstEq := early.eq_of_version_eq (by omega)
    subst firstEq
    exact late.eq_of_version_eq same

/-- One operation leads to a later record. -/
theorem Advances.precedes {record next : FileRecord} (advance : record.Advances next) :
    record.Precedes next := by
  rcases advance with rfl | moved
  · exact .refl _
  · exact ⟨by omega, fun same => by omega⟩

/-- One operation moves a version by one at most. -/
theorem Advances.version_le {record next : FileRecord} (advance : record.Advances next) :
    next.version ≤ record.version + 1 := by
  rcases advance with rfl | moved <;> omega

/-- Supplying a content is one operation. -/
theorem supplied_advances (record : FileRecord) (content : String) :
    record.Advances (record.supplied content) := by
  unfold supplied
  split
  · exact .inl rfl
  · exact .inr rfl

end FileRecord

namespace FileStore

open FileRecord

variable {path : String} {record : FileRecord}

/-- An operation that does not end the tracking of a file keeps its record or moves the
version by one. A record that holds content is not touched by a reading. -/
theorem Op.onRecord_advances {op : Op} (filled : record.content.isSome)
    (kept : op ≠ .untrack path) :
    ∃ next, op.onRecord path (some record) = some next ∧ record.Advances next := by
  by_cases aimed : op.target? = some path
  · cases op with
    | update target content =>
      obtain rfl : target = path := by simpa [Op.target?] using aimed
      exact ⟨record.supplied content, by simp [Op.onRecord], supplied_advances record content⟩
    | refresh target content =>
      obtain rfl : target = path := by simpa [Op.target?] using aimed
      exact ⟨record.change content, by simp [Op.onRecord], .inr rfl⟩
    | track disk target =>
      exact ⟨record, Op.onRecord_track filled disk target path, .inl rfl⟩
    | untrack target =>
      obtain rfl : target = path := by simpa [Op.target?] using aimed
      exact absurd rfl kept
    | drain => simp [Op.target?] at aimed
  · exact ⟨record, Op.onRecord_of_other aimed _, .inl rfl⟩

private theorem loaded?_proper {known next : FileRecord} {reading : Except DiskError String}
    (ownPath : known.path = path) (loaded : known.loaded? reading = some next) :
    Proper path next := by
  unfold loaded? at loaded
  split at loaded
  · next content holds =>
    cases loaded
    exact ⟨ownPath, by simp [holds]⟩
  · cases loaded
    exact ⟨ownPath, rfl⟩
  · cases loaded

/-- Operations leave proper records only. -/
theorem Op.onRecord_proper {op : Op} {known : Option FileRecord}
    (proper : ∀ record, known = some record → Proper path record) {next : FileRecord}
    (left : op.onRecord path known = some next) : Proper path next := by
  have ownPath : (known.getD (.blank path)).path = path := by
    cases known with
    | none => rfl
    | some record => exact (proper record rfl).ownPath
  by_cases aimed : op.target? = some path
  · cases op with
    | update target content =>
      obtain rfl : target = path := by simpa [Op.target?] using aimed
      simp only [Op.onRecord, if_true, Option.some.injEq] at left
      subst left
      exact ⟨by simpa using ownPath, by simp⟩
    | refresh target content =>
      obtain rfl : target = path := by simpa [Op.target?] using aimed
      simp only [Op.onRecord, if_true, Option.map_eq_some_iff] at left
      obtain ⟨record, held, rfl⟩ := left
      exact ⟨(proper record held).ownPath, rfl⟩
    | track disk target =>
      obtain rfl : target = path := by simpa [Op.target?] using aimed
      simp only [Op.onRecord, if_true, Option.or_eq_some_iff] at left
      rcases left with loaded | ⟨_, held⟩
      · exact loaded?_proper ownPath loaded
      · exact proper next held
    | untrack target =>
      obtain rfl : target = path := by simpa [Op.target?] using aimed
      simp [Op.onRecord] at left
    | drain => simp [Op.target?] at aimed
  · rw [Op.onRecord_of_other aimed] at left
    exact proper next left

/-- Every record in a store is proper. -/
def Proper (store : FileStore) : Prop :=
  ∀ path record, store.get? path = some record → record.Proper path

/-- In the empty store every record is proper, as there is none. -/
theorem empty_proper : (∅ : FileStore).Proper := by
  intro path record held
  simp at held

/-- An operation keeps all records proper. -/
theorem Proper.apply {store : FileStore} (proper : store.Proper) (op : Op) :
    (store.apply op).1.Proper := by
  intro path record held
  rw [get?_apply] at held
  exact Op.onRecord_proper (proper path) held

/-- A history keeps all records proper. -/
theorem Proper.run {store : FileStore} (proper : store.Proper) (ops : List Op) :
    (store.run ops).Proper := by
  induction ops generalizing store with
  | nil => exact proper
  | cons op ops ih => exact ih (proper.apply op)

/-- A tracked file has a record, the one that operations start from. -/
theorem contains_iff {store : FileStore} {path : String} :
    store.contains path = true ↔ store.get? path = some (store.recordOf path) := by
  unfold contains recordOf
  cases store.get? path <;> simp

/-- The record of a tracked file of a proper store is its path, a version and a content. -/
theorem Proper.get?_eq {store : FileStore} (proper : store.Proper)
    (tracked : store.contains path = true) :
    store.get? path = some ⟨path, (store.recordOf path).version,
      some ((store.recordOf path).content.getD "")⟩ := by
  have known := contains_iff.mp tracked
  obtain ⟨ownPath, filled⟩ := proper path _ known
  obtain ⟨content, holds⟩ := Option.isSome_iff_exists.mp filled
  rw [known, holds, Option.getD_some, ← holds]
  exact congrArg (fun shown => some { store.recordOf path with path := shown }) ownPath

section Stretch

variable {store : FileStore} {ops : List Op}

/-- While a file stays tracked, its later records follow its earlier ones in order. -/
theorem Proper.get?_run_precedes (proper : store.Proper) (kept : .untrack path ∉ ops)
    (known : store.get? path = some record) :
    ∃ later, (store.run ops).get? path = some later ∧ record.Precedes later := by
  induction ops generalizing store record with
  | nil => exact ⟨record, known, .refl record⟩
  | cons op ops ih =>
    obtain ⟨headKept, tailKept⟩ := not_or.mp (mt List.mem_cons.mpr kept)
    obtain ⟨next, left, advance⟩ :=
      Op.onRecord_advances (proper path record known).filled (Ne.symm headKept)
    have nextKnown : (store.apply op).1.get? path = some next := by
      rw [get?_apply, known, left]
    obtain ⟨later, held, precedes⟩ := ih (proper.apply op) tailKept nextKnown
    exact ⟨later, held, advance.precedes.trans precedes⟩

/-- As long as a file is not untracked, it stays tracked. -/
theorem Proper.contains_run (proper : store.Proper) (kept : .untrack path ∉ ops)
    (tracked : store.contains path = true) : (store.run ops).contains path = true := by
  obtain ⟨later, held, _⟩ := proper.get?_run_precedes kept (contains_iff.mp tracked)
  simp [contains, held]

/-- As long as a file is not untracked, its record only moves on. -/
theorem Proper.recordOf_run_precedes (proper : store.Proper) (kept : .untrack path ∉ ops)
    (tracked : store.contains path = true) :
    (store.recordOf path).Precedes ((store.run ops).recordOf path) := by
  obtain ⟨later, held, precedes⟩ := proper.get?_run_precedes kept (contains_iff.mp tracked)
  rwa [recordOf, recordOf, held, Option.getD_some]

private theorem not_mem_take {op : Op} (kept : op ∉ ops) (count : Nat) : op ∉ ops.take count :=
  fun member => kept (List.mem_of_mem_take member)

/-- The records of a tracked file at two moments of a stretch are in order. -/
theorem Proper.recordOf_take_precedes (proper : store.Proper) (kept : .untrack path ∉ ops)
    (tracked : store.contains path = true) {earlier later : Nat} (ordered : earlier ≤ later) :
    ((store.run (ops.take earlier)).recordOf path).Precedes
      ((store.run (ops.take later)).recordOf path) := by
  have split : ops.take later = ops.take earlier ++ (ops.drop earlier).take (later - earlier) := by
    rw [← List.take_add, Nat.add_sub_of_le ordered]
  rw [split, run_append]
  apply (proper.run _).recordOf_run_precedes
  · intro member
    exact kept (List.mem_of_mem_drop (List.mem_of_mem_take member))
  · exact proper.contains_run (not_mem_take kept earlier) tracked

/-- Between two neighbouring moments of a stretch the version of a tracked file moves by one
at most. -/
theorem Proper.version_take_succ_le (proper : store.Proper) (kept : .untrack path ∉ ops)
    (tracked : store.contains path = true) (moment : Nat) :
    ((store.run (ops.take (moment + 1))).recordOf path).version ≤
      ((store.run (ops.take moment)).recordOf path).version + 1 := by
  by_cases within : moment < ops.length
  · have known := contains_iff.mp (proper.contains_run (not_mem_take kept moment) tracked)
    have notLast : ops[moment] ≠ .untrack path := by
      intro same
      exact kept (same ▸ List.getElem_mem within)
    obtain ⟨next, left, advance⟩ :=
      Op.onRecord_advances ((proper.run _) path _ known).filled notLast
    have nextKnown : (store.run (ops.take (moment + 1))).recordOf path = next := by
      rw [List.take_succ_eq_append_getElem within, run_append, run_cons, run_nil, recordOf,
        get?_apply, known, left, Option.getD_some]
    rw [nextKnown]
    exact advance.version_le
  · rw [List.take_of_length_le (by omega), List.take_of_length_le (by omega)]
    exact Nat.le_succ _

end Stretch

/-- While a file stays tracked it has a version and a content at every moment. The version
never falls, an operation moves it by one at most, and one version stands for one content. -/
theorem version_identifies_content (past stretch : List Op) (path : String)
    (tracked : (run ∅ past).contains path = true) (kept : .untrack path ∉ stretch) :
    ∃ (version : Nat → Nat) (content : Nat → String),
      (∀ moment, ((run ∅ past).run (stretch.take moment)).get? path =
        some ⟨path, version moment, some (content moment)⟩) ∧
      (∀ earlier later, earlier ≤ later → version earlier ≤ version later) ∧
      (∀ moment, version (moment + 1) ≤ version moment + 1) ∧
      (∀ first second, version first = version second → content first = content second) := by
  have proper : (run ∅ past).Proper := empty_proper.run past
  let record : Nat → FileRecord := fun moment =>
    ((run ∅ past).run (stretch.take moment)).recordOf path
  have precedes : ∀ {earlier later}, earlier ≤ later →
      (record earlier).Precedes (record later) :=
    fun ordered => proper.recordOf_take_precedes kept tracked ordered
  refine ⟨fun moment => (record moment).version, fun moment => (record moment).content.getD "",
    ?_, fun _ _ ordered => (precedes ordered).version_le,
    proper.version_take_succ_le kept tracked, ?_⟩
  · intro moment
    exact (proper.run _).get?_eq (proper.contains_run (not_mem_take kept moment) tracked)
  · intro first second same
    have equal : record first = record second := by
      rcases Nat.le_total first second with ordered | ordered
      · exact (precedes ordered).eq_of_version_eq same
      · exact ((precedes ordered).eq_of_version_eq same.symm).symm
    exact congrArg (fun known => known.content.getD "") equal

/-- A file is read from disk, forgotten and supplied anew; then it is refreshed with what it
holds, and a disk that tells otherwise is asked for it. -/
theorem version_identifies_content_in_second_life :
    (run ∅ [.track ⟨fun _ => .ok "old", fun _ => true⟩ "a", .untrack "a",
      .update "a" "new"]).contains "a" = true ∧
    ∃ (version : Nat → Nat) (content : Nat → String),
      (∀ moment, ((run ∅ [.track ⟨fun _ => .ok "old", fun _ => true⟩ "a", .untrack "a",
          .update "a" "new"]).run ([.refresh "a" "new",
          .track ⟨fun _ => .ok "old", fun _ => true⟩ "a"].take moment)).get? "a" =
        some ⟨"a", version moment, some (content moment)⟩) ∧
      (∀ earlier later, earlier ≤ later → version earlier ≤ version later) ∧
      (∀ moment, version (moment + 1) ≤ version moment + 1) ∧
      (∀ first second, version first = version second → content first = content second) :=
  ⟨by decide, version_identifies_content _ _ "a" (by decide) (by simp)⟩

end FileStore

end ScriptLoader
