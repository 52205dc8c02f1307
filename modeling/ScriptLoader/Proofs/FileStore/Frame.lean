import ScriptLoader.Proofs.FileStore.Effect

/-!
# What operations mark and count, and what they leave alone

Beside its records a store keeps the modified paths and the number of changes.
`isModified_apply` says for one path, and `programVersion_apply` for the whole store, what an
operation does to them. An operation that is about another path shows at a path neither in
its record nor in its mark, and a reading counts and marks nothing anywhere.
-/

namespace ScriptLoader.FileStore

/-- Whether a path is modified after an operation; `tracked` and `marked` say whether it had
a record and was modified before. -/
def Op.onMark (path : String) (tracked marked : Bool) : Op → Bool
  | .update target _ => target = path || marked
  | .refresh target _ => (target = path && tracked) || marked
  | .track _ _ => marked
  | .untrack target => target ≠ path && marked
  | .drain => false

/-- A reading marks nothing and counts nothing. -/
theorem frame_track (store : FileStore) (disk : Disk) (target : String) :
    (store.apply (.track disk target)).1.modified = store.modified ∧
      (store.apply (.track disk target)).1.programVersion = store.programVersion := by
  simp only [apply, track]
  cases (store.recordOf target).content with
  | some content => exact ⟨rfl, rfl⟩
  | none =>
    cases disk.read target with
    | error cause => exact ⟨rfl, rfl⟩
    | ok content => exact ⟨rfl, rfl⟩

private theorem isModified_insert (modified : Std.ExtTreeSet String compare)
    (target path : String) :
    (modified.insert target).contains path = (decide (target = path) || modified.contains path) := by
  rw [Std.ExtTreeSet.contains_insert]
  by_cases same : target = path <;> simp [same]

/-- An operation acts on the mark of each path alone. -/
theorem isModified_apply (store : FileStore) (op : Op) (path : String) :
    (store.apply op).1.isModified path =
      op.onMark path (store.contains path) (store.isModified path) := by
  cases op with
  | update target content =>
    simp only [apply, update, Op.onMark, isModified]
    split
    · exact isModified_insert _ target path
    · exact isModified_insert _ target path
  | refresh target content =>
    simp only [apply, refresh, Op.onMark, isModified]
    cases known : store.get? target with
    | none =>
      by_cases same : target = path
      · subst same
        simp [contains, known]
      · simp [same]
    | some record =>
      by_cases same : target = path
      · subst same
        simp [contains, known, change]
      · simp [same, change, Std.ExtTreeSet.contains_insert]
  | track disk target =>
    exact congrArg (·.contains path) (store.frame_track disk target).1
  | untrack target =>
    simp only [apply, untrack, Op.onMark, isModified]
    rw [Std.ExtTreeSet.contains_erase]
    by_cases same : target = path <;> simp [same]
  | drain =>
    simp [apply, drain, Op.onMark, isModified]

/-- The number of changes that an operation counts. -/
def Op.changes (store : FileStore) : Op → Nat
  | .update path content => if (store.recordOf path).hasContent content then 0 else 1
  | .refresh path _ => if store.contains path then 1 else 0
  | _ => 0

/-- The program version counts the changes. -/
theorem programVersion_apply (store : FileStore) (op : Op) :
    (store.apply op).1.programVersion = store.programVersion + op.changes store := by
  cases op with
  | update path content =>
    simp only [apply, update, Op.changes]
    split <;> rfl
  | refresh path content =>
    cases known : store.get? path with
    | none => simp [apply, refresh, Op.changes, contains, known]
    | some record => simp [apply, refresh, Op.changes, contains, known, change]
  | track disk path => exact (store.frame_track disk path).2
  | untrack path => rfl
  | drain => rfl

/-- An operation is about a path, but not about this one. -/
def Op.IsElsewhere (path : String) (op : Op) : Prop :=
  ∃ target, op.target? = some target ∧ target ≠ path

section Elsewhere

variable {path : String}

/-- An operation that is elsewhere is not about the path. -/
theorem Op.IsElsewhere.target?_ne {op : Op} (elsewhere : op.IsElsewhere path) :
    op.target? ≠ some path := by
  obtain ⟨target, aim, different⟩ := elsewhere
  simpa [aim] using different

/-- An operation that is elsewhere leaves the mark of the path. -/
theorem Op.IsElsewhere.onMark_eq {op : Op} (elsewhere : op.IsElsewhere path)
    (tracked marked : Bool) : op.onMark path tracked marked = marked := by
  obtain ⟨target, aim, different⟩ := elsewhere
  cases op <;> simp_all [Op.target?, Op.onMark]

/-- Operations elsewhere leave a path its record and its mark. -/
theorem frame_run {ops : List Op} (elsewhere : ∀ op ∈ ops, op.IsElsewhere path)
    (store : FileStore) :
    (store.run ops).get? path = store.get? path ∧
      (store.run ops).isModified path = store.isModified path := by
  induction ops generalizing store with
  | nil => exact ⟨rfl, rfl⟩
  | cons op ops ih =>
    obtain ⟨here, later⟩ := List.forall_mem_cons.mp elsewhere
    obtain ⟨recordEq, markEq⟩ := ih later (store.apply op).1
    rw [run_cons, recordEq, markEq, get?_apply, isModified_apply,
      Op.onRecord_of_other here.target?_ne, here.onMark_eq]
    exact ⟨rfl, rfl⟩

end Elsewhere

section Readings

variable (store : FileStore) (disk : Disk) (targets : List String)

/-- Readings mark nothing and count nothing. -/
theorem frame_run_track :
    (store.run (targets.map (.track disk))).modified = store.modified ∧
      (store.run (targets.map (.track disk))).programVersion = store.programVersion := by
  induction targets generalizing store with
  | nil => exact ⟨rfl, rfl⟩
  | cons target targets ih =>
    obtain ⟨markedEq, countEq⟩ := ih (store.apply (.track disk target)).1
    obtain ⟨firstMarkedEq, firstCountEq⟩ := store.frame_track disk target
    exact ⟨markedEq.trans firstMarkedEq, countEq.trans firstCountEq⟩

variable {store disk targets} {path : String}

/-- Readings make a record for a path if it is read and the disk gives a text for it. -/
theorem get?_run_track_of_absent (absent : store.get? path = none) :
    (store.run (targets.map (.track disk))).get? path =
      if path ∈ targets then (disk.read path).toOption.map (.holding path) else none := by
  induction targets generalizing store with
  | nil => simpa using absent
  | cons target targets ih =>
    rw [List.map_cons, run_cons]
    by_cases aimed : target = path
    · subst aimed
      cases read : disk.read target with
      | error cause =>
        have after : (store.apply (.track disk target)).1.get? target = none := by
          simp [get?_apply, absent, Op.onRecord, FileRecord.loaded?, FileRecord.blank, read]
        rw [ih after, read]
        simp [Except.toOption]
      | ok text =>
        have after : (store.apply (.track disk target)).1.get? target =
            some (.holding target text) := by
          simp [get?_apply, absent, Op.onRecord, FileRecord.loaded?, FileRecord.blank, read,
            FileRecord.holding]
        rw [get?_run_track after rfl]
        simp [Except.toOption]
    · have after : (store.apply (.track disk target)).1.get? path = none := by
        rw [get?_apply, absent, Op.onRecord_of_other (by simpa [Op.target?] using aimed)]
      rw [ih after]
      simp [Ne.symm aimed]

end Readings

end ScriptLoader.FileStore
