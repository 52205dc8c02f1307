import ScriptLoader.Proofs.FileStore.Frame
import ScriptLoader.Proofs.FileStore.Version

/-!
# Which paths are modified

A path is marked when content is supplied for it, and when its file is refreshed with
success. The mark goes when the modified paths are taken, and when the file is no longer
tracked. Nothing else sets it or takes it, so the modified paths can be read off a history:
they are those on which it leaves a mark.
-/

namespace ScriptLoader.FileStore

/-- An operation touches a path: it supplies content for it, or refreshes its file with
success. -/
inductive Op.Touches (store : FileStore) (path : String) : Op → Prop where
  | supplied (content : String) : Touches store path (.update path content)
  | refreshed {content : String} {version : Nat}
      (success : (store.apply (.refresh path content)).2 = .version version) :
      Touches store path (.refresh path content)

/-- In a history the modified paths are not taken, nor is the tracking of a file ended. -/
def KeepsMark (path : String) (ops : List Op) : Prop :=
  ∀ op ∈ ops, op ≠ .drain ∧ op ≠ .untrack path

/-- A path is touched in a history, and after that neither are the modified paths taken nor is
the tracking of its file ended. What holds after any touch holds after the last one. -/
def LeavesMark (store : FileStore) (path : String) (ops : List Op) : Prop :=
  ∃ before op after, ops = before ++ op :: after ∧ op.Touches (store.run before) path ∧
    KeepsMark path after

variable {store : FileStore} {path : String}

/-- A refresh succeeds if the file is tracked. -/
theorem Op.touches_refresh_iff {target content : String} :
    (Op.refresh target content).Touches store path ↔
      target = path ∧ store.contains path = true := by
  have succeeds : (∃ version, (store.apply (.refresh path content)).2 = .version version) ↔
      store.contains path = true := by
    cases known : store.get? path <;> simp [apply, FileStore.refresh, contains, known]
  constructor
  · intro touches
    cases touches with
    | refreshed success => exact ⟨rfl, succeeds.mp ⟨_, success⟩⟩
  · rintro ⟨rfl, tracked⟩
    obtain ⟨version, success⟩ := succeeds.mpr tracked
    exact .refreshed success

/-- A path is modified after an operation that touches it, and stays so until the modified
paths are taken or its file is no longer tracked. -/
theorem isModified_apply_iff {op : Op} :
    (store.apply op).1.isModified path = true ↔
      op.Touches store path ∨
        store.isModified path = true ∧ op ≠ .drain ∧ op ≠ .untrack path := by
  rw [isModified_apply]
  cases op with
  | update target content =>
    have touches : (Op.update target content).Touches store path ↔ target = path := by
      constructor
      · rintro ⟨⟩
        rfl
      · rintro rfl
        exact .supplied content
    simp [Op.onMark, touches]
  | refresh target content => simp [Op.onMark, Op.touches_refresh_iff]
  | track disk target =>
    have untouched : ¬ (Op.track disk target).Touches store path := by rintro ⟨⟩
    simp [Op.onMark, untouched]
  | untrack target =>
    have untouched : ¬ (Op.untrack target).Touches store path := by rintro ⟨⟩
    simp [Op.onMark, untouched, and_comm]
  | drain =>
    have untouched : ¬ (Op.drain).Touches store path := by rintro ⟨⟩
    simp [Op.onMark, untouched]

/-- A mark is kept by operations if it is kept by the first and by all others. -/
theorem keepsMark_cons_iff {op : Op} {ops : List Op} :
    KeepsMark path (op :: ops) ↔ (op ≠ .drain ∧ op ≠ .untrack path) ∧ KeepsMark path ops :=
  List.forall_mem_cons

/-- A mark is left by the first operation and kept by the others, or left by the others. -/
theorem leavesMark_cons_iff {op : Op} {ops : List Op} :
    LeavesMark store path (op :: ops) ↔
      op.Touches store path ∧ KeepsMark path ops ∨ LeavesMark (store.apply op).1 path ops := by
  constructor
  · rintro ⟨before, touch, after, split, touches, keeps⟩
    cases before with
    | nil =>
      obtain ⟨rfl, rfl⟩ := List.cons.inj split
      exact .inl ⟨touches, keeps⟩
    | cons head before =>
      obtain ⟨rfl, rfl⟩ := List.cons.inj split
      exact .inr ⟨before, touch, after, rfl, touches, keeps⟩
  · rintro (⟨touches, keeps⟩ | ⟨before, touch, after, rfl, touches, keeps⟩)
    · exact ⟨[], op, ops, rfl, touches, keeps⟩
    · exact ⟨op :: before, touch, after, rfl, touches, keeps⟩

/-- A path is modified after a history if this leaves a mark on it, or keeps the mark that was
there. -/
theorem isModified_run_iff {ops : List Op} :
    (store.run ops).isModified path = true ↔
      LeavesMark store path ops ∨ store.isModified path = true ∧ KeepsMark path ops := by
  induction ops generalizing store with
  | nil => simp [LeavesMark, KeepsMark]
  | cons op ops ih =>
    rw [run_cons, ih, isModified_apply_iff, leavesMark_cons_iff, keepsMark_cons_iff]
    constructor
    · rintro (later | ⟨touches | ⟨marked, kept⟩, keeps⟩)
      · exact .inl (.inr later)
      · exact .inl (.inl ⟨touches, keeps⟩)
      · exact .inr ⟨marked, kept, keeps⟩
    · rintro ((⟨touches, keeps⟩ | later) | ⟨marked, kept, keeps⟩)
      · exact .inr ⟨.inl touches, keeps⟩
      · exact .inl later
      · exact .inr ⟨.inr ⟨marked, kept⟩, keeps⟩

/-- A file that an operation touches is tracked after it. -/
theorem Op.Touches.contains_apply {op : Op} (touches : op.Touches store path) :
    (store.apply op).1.contains path = true := by
  rw [contains, get?_apply]
  cases touches with
  | supplied content => simp [Op.onRecord]
  | @refreshed content version success =>
    have tracked := (Op.touches_refresh_iff.mp (.refreshed success)).2
    simpa [Op.onRecord, contains] using tracked

/-- A path on which a history leaves a mark has a record. -/
theorem LeavesMark.contains_run (proper : store.Proper) {ops : List Op}
    (leaves : LeavesMark store path ops) : (store.run ops).contains path = true := by
  obtain ⟨before, op, after, rfl, touches, keeps⟩ := leaves
  have kept : .untrack path ∉ after := fun member => (keeps _ member).2 rfl
  rw [run_append, run_cons]
  exact ((proper.run before).apply op).contains_run kept touches.contains_apply

/-- The modified paths are those that are marked. -/
theorem mem_modifiedFiles_iff : path ∈ store.modifiedFiles ↔ store.isModified path = true := by
  rw [modifiedFiles, Std.ExtTreeSet.mem_toList, Std.ExtTreeSet.mem_iff_contains, isModified]

/-- The modified paths come in order. -/
theorem modifiedFiles_ordered (store : FileStore) : store.modifiedFiles.Pairwise (· < ·) :=
  Collection.pairwise_lt_of_compare Std.ExtTreeSet.ordered_toList

/-- After every history the modified paths are those on which it leaves a mark, and all of
them have records. Taking them gives them in order, leaves none, and changes nothing else. -/
theorem modified_of_history (ops : List Op) :
    (∀ path, (run ∅ ops).isModified path = true ↔ LeavesMark ∅ path ops) ∧
      (∀ path, (run ∅ ops).isModified path = true → (run ∅ ops).contains path = true) ∧
      ∃ paths, (run ∅ ops).apply .drain = ({ run ∅ ops with modified := ∅ }, .paths paths) ∧
        paths.Pairwise (· < ·) ∧ ∀ path, path ∈ paths ↔ LeavesMark ∅ path ops := by
  have modified_iff : ∀ path, (run ∅ ops).isModified path = true ↔ LeavesMark ∅ path ops := by
    intro path
    have unmarked : ¬ (∅ : FileStore).isModified path = true := by
      change ¬ (∅ : Std.ExtTreeSet String compare).contains path = true
      simp
    rw [isModified_run_iff]
    exact or_iff_left fun marked => unmarked marked.1
  refine ⟨modified_iff, ?_, (run ∅ ops).modifiedFiles, rfl, modifiedFiles_ordered _, ?_⟩
  · intro path marked
    exact ((modified_iff path).mp marked).contains_run empty_proper
  · intro path
    rw [mem_modifiedFiles_iff, modified_iff]

end ScriptLoader.FileStore
