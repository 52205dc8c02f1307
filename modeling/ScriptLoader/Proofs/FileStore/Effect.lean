import ScriptLoader.FileStore.Basic
import ScriptLoader.Proofs.Collection

/-!
# Operations, one path at a time

No operation lets the record of one file depend on another file. `Op.onRecord` says what an
operation does to the record of a path, given that record alone, and `get?_run` that a whole
history acts on every path in this way. What holds of a record after any history then
follows from what one operation can do to it.
-/

namespace ScriptLoader

namespace FileRecord

/-- The record after content was supplied for its file. -/
def supplied (record : FileRecord) (content : String) : FileRecord :=
  if record.hasContent content then record else record.change content

/-- The record after its file was read: content that is known stays, and without content
there is a record only if the disk gives one. -/
def loaded? (record : FileRecord) (reading : Except DiskError String) : Option FileRecord :=
  match record.content, reading with
  | some _, _ => some record
  | none, .ok content => some { record with content := some content }
  | none, .error _ => none

/-- A record has a content if it is the one that it holds. -/
theorem hasContent_iff {record : FileRecord} {content : String} :
    record.hasContent content = true ↔ record.content = some content := by
  simp [hasContent]

/-- Supplied content is the content that the record holds afterwards. -/
@[simp] theorem content_supplied (record : FileRecord) (content : String) :
    (record.supplied content).content = some content := by
  unfold supplied
  split
  · next same => exact hasContent_iff.mp same
  · rfl

/-- Supplying the content that a record holds leaves the record. -/
theorem supplied_eq_self {record : FileRecord} {content : String}
    (holds : record.content = some content) : record.supplied content = record :=
  if_pos (hasContent_iff.mpr holds)

@[simp] theorem path_supplied (record : FileRecord) (content : String) :
    (record.supplied content).path = record.path := by
  unfold supplied
  split <;> rfl

end FileRecord

namespace FileStore

/-- The path that an operation is about, if it is about one. -/
def Op.target? : Op → Option String
  | .update path _ | .refresh path _ | .track _ path | .untrack path => some path
  | .drain => none

/-- The record of a path after an operation, where `known` is the record before. -/
def Op.onRecord (path : String) (known : Option FileRecord) : Op → Option FileRecord
  | .update target content =>
    if target = path then some ((known.getD (.blank path)).supplied content) else known
  | .refresh target content =>
    if target = path then known.map (·.change content) else known
  | .track disk target =>
    if target = path then ((known.getD (.blank path)).loaded? (disk.read path)).or known
    else known
  | .untrack target => if target = path then none else known
  | .drain => known

/-- An operation about another path leaves a record as it is. -/
theorem Op.onRecord_of_other {op : Op} {path : String} (other : op.target? ≠ some path)
    (known : Option FileRecord) : op.onRecord path known = known := by
  cases op <;> simp_all [Op.target?, Op.onRecord]

@[simp] theorem get?_empty (path : String) : (∅ : FileStore).get? path = none := by
  change (∅ : Std.ExtTreeMap String FileRecord compare)[path]? = none
  simp

/-- The paths of a store are those of the tracked files. -/
theorem mem_paths_iff {store : FileStore} {path : String} :
    path ∈ store.paths ↔ store.contains path = true := by
  rw [paths, Std.ExtTreeMap.mem_keys, contains, get?, Std.ExtTreeMap.isSome_getElem?_iff_mem]

/-- Tracked files come in the order of their paths. -/
theorem paths_ordered (store : FileStore) : store.paths.Pairwise (· < ·) :=
  Collection.pairwise_lt_of_compare Std.ExtTreeMap.ordered_keys

@[simp] theorem get?_change (store : FileStore) (target path : String) (record : FileRecord) :
    (store.change target record).get? path =
      if target = path then some record else store.get? path := by
  simp [change, get?, Std.ExtTreeMap.getElem?_insert]

/-- A path whose content is known has a record. -/
theorem get?_of_content {store : FileStore} {path content : String}
    (holds : (store.recordOf path).content = some content) :
    store.get? path = some (store.recordOf path) := by
  unfold recordOf at holds ⊢
  cases known : store.get? path with
  | none => simp [known, FileRecord.blank] at holds
  | some record => rfl

/-- An operation starts from the record that is there. -/
theorem recordOf_of_get? {store : FileStore} {path : String} {record : FileRecord}
    (known : store.get? path = some record) : store.recordOf path = record := by
  rw [recordOf, known, Option.getD_some]

/-- Supplying a content acts on the record of one path. -/
theorem get?_update (store : FileStore) (target content path : String) :
    (store.update target content).get? path =
      if target = path then some ((store.recordOf path).supplied content)
      else store.get? path := by
  unfold update FileRecord.supplied
  by_cases same : (store.recordOf target).hasContent content
  · have known := get?_of_content (FileRecord.hasContent_iff.mp same)
    by_cases aimed : target = path
    · subst aimed
      simp only [same, if_true]
      exact known
    · simp only [same, aimed, if_true, if_false]
      rfl
  · by_cases aimed : target = path
    · subst aimed
      simp [same]
    · simp [same, aimed]

/-- The version that supplied content gives is that of the record it leaves. -/
theorem updatedVersion_eq (store : FileStore) (path content : String) :
    store.updatedVersion path content = ((store.recordOf path).supplied content).version := by
  simp only [updatedVersion, FileRecord.supplied]
  split <;> rfl

private theorem get?_apply_refresh (store : FileStore) (target content path : String) :
    (store.apply (.refresh target content)).1.get? path =
      if target = path then (store.get? path).map (·.change content)
      else store.get? path := by
  simp only [apply, refresh]
  cases known : store.get? target with
  | none =>
    by_cases aimed : target = path
    · subst aimed
      simp [known]
    · simp [aimed]
  | some record =>
    by_cases aimed : target = path
    · subst aimed
      simp [known]
    · simp [aimed]

private theorem get?_apply_track (store : FileStore) (disk : Disk) (target path : String) :
    (store.apply (.track disk target)).1.get? path =
      if target = path then
        ((store.recordOf path).loaded? (disk.read path)).or (store.get? path)
      else store.get? path := by
  simp only [apply, track]
  by_cases aimed : target = path
  · subst aimed
    cases holds : (store.recordOf target).content with
    | some content => simp [holds, FileRecord.loaded?, get?_of_content holds]
    | none =>
      cases disk.read target with
      | error cause => simp [holds, FileRecord.loaded?]
      | ok content => simp [holds, FileRecord.loaded?, get?]
  · cases holds : (store.recordOf target).content with
    | some content => simp [aimed]
    | none =>
      cases disk.read target with
      | error cause => simp [aimed]
      | ok content => simp [aimed, get?, Std.ExtTreeMap.getElem?_insert]

/-- An operation acts on the record of each path alone. -/
theorem get?_apply (store : FileStore) (op : Op) (path : String) :
    (store.apply op).1.get? path = op.onRecord path (store.get? path) := by
  cases op with
  | update target content => exact get?_update store target content path
  | refresh target content => exact get?_apply_refresh store target content path
  | track disk target => exact get?_apply_track store disk target path
  | untrack target => simp [apply, untrack, get?, Op.onRecord, Std.ExtTreeMap.getElem?_erase]
  | drain => rfl

/-- An operation about another path neither tracks nor forgets a file. -/
theorem contains_apply_of_other {store : FileStore} {op : Op} {path : String}
    (other : op.target? ≠ some path) :
    (store.apply op).1.contains path = store.contains path := by
  rw [contains, contains, get?_apply, Op.onRecord_of_other other]

@[simp] theorem run_nil (store : FileStore) : store.run [] = store := rfl

@[simp] theorem run_cons (store : FileStore) (op : Op) (ops : List Op) :
    store.run (op :: ops) = (store.apply op).1.run ops := rfl

/-- A history may be cut anywhere. -/
theorem run_append (store : FileStore) (first second : List Op) :
    store.run (first ++ second) = (store.run first).run second :=
  List.foldl_append

/-- Reading a file changes nothing if its content is known. -/
theorem Op.onRecord_track {record : FileRecord} (filled : record.content.isSome) (disk : Disk)
    (target path : String) : Op.onRecord path (some record) (.track disk target) =
      some record := by
  obtain ⟨content, holds⟩ := Option.isSome_iff_exists.mp filled
  simp [Op.onRecord, FileRecord.loaded?, holds]

/-- Readings leave the record of a file whose content is known as it is. -/
theorem get?_run_track {store : FileStore} {path : String} {record : FileRecord}
    (known : store.get? path = some record) (filled : record.content.isSome) (disk : Disk)
    (targets : List String) :
    (store.run (targets.map (.track disk))).get? path = some record := by
  induction targets generalizing store with
  | nil => exact known
  | cons target targets ih =>
    refine ih ?_
    rw [get?_apply, known, Op.onRecord_track filled]

end FileStore

end ScriptLoader
