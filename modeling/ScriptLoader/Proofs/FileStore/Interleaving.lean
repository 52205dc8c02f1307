import ScriptLoader.Proofs.FileStore.Frame

/-!
# Interleaved histories

Several builds may share a store, each with files of its own. An operation looks at the record
of its own file and at nothing else. All files share the number of changes and the set of
modified paths, but it does not matter in which order changes are counted and paths are
marked. So operations on different files commute, and each gives back the same in either
order.

A history is determined by the sequence of its operations for each path: an operation can be
brought to the front of all that was done for other files, and then the rest is compared in
the same way.
-/

namespace ScriptLoader.FileStore

/-- A store is its records, its marks and its count. -/
@[ext]
theorem ext {first second : FileStore}
    (records : ∀ path, first.get? path = second.get? path)
    (marks : ∀ path, first.isModified path = second.isModified path)
    (counts : first.programVersion = second.programVersion) : first = second := by
  obtain ⟨firstRecords, firstCount, firstMarks⟩ := first
  obtain ⟨secondRecords, secondCount, secondMarks⟩ := second
  obtain rfl : firstCount = secondCount := counts
  obtain rfl : firstRecords = secondRecords := Std.ExtTreeMap.ext_getElem? records
  obtain rfl : firstMarks = secondMarks := Std.ExtTreeSet.ext_contains marks
  rfl

/-- An operation concerns a path: it is about this path, or it takes the modified paths and so
is about all of them. -/
def Op.concerns (path : String) (op : Op) : Bool :=
  op.target?.all (· = path)

/-- Two operations are about different files. -/
def Op.Apart (first second : Op) : Prop :=
  ∃ path other, first.target? = some path ∧ second.target? = some other ∧ path ≠ other

/-- An operation concerns no path from which it is elsewhere, and every other path. -/
theorem Op.concerns_eq_false_iff {path : String} {op : Op} :
    op.concerns path = false ↔ op.IsElsewhere path := by
  unfold Op.concerns Op.IsElsewhere
  cases op.target? <;> simp

/-- Every operation concerns some path. -/
theorem Op.exists_concerns (op : Op) : ∃ path, op.concerns path = true := by
  cases op with
  | update path _ => exact ⟨path, by simp [Op.concerns, Op.target?]⟩
  | refresh path _ => exact ⟨path, by simp [Op.concerns, Op.target?]⟩
  | track _ path => exact ⟨path, by simp [Op.concerns, Op.target?]⟩
  | untrack path => exact ⟨path, by simp [Op.concerns, Op.target?]⟩
  | drain => exact ⟨"", rfl⟩

/-- Of two operations about different files, one at least is elsewhere, whatever the path. -/
theorem Op.Apart.isElsewhere {first second : Op} (apart : first.Apart second) (path : String) :
    first.IsElsewhere path ∨ second.IsElsewhere path := by
  obtain ⟨firstPath, secondPath, firstAim, secondAim, different⟩ := apart
  by_cases same : firstPath = path
  · exact .inr ⟨secondPath, secondAim, fun secondSame => different (same.trans secondSame.symm)⟩
  · exact .inl ⟨firstPath, firstAim, same⟩

/-- An operation that is elsewhere for every path that another one concerns is about another
file. -/
theorem Op.apart_of_isElsewhere {first second : Op}
    (elsewhere : ∀ path, second.concerns path = true → first.IsElsewhere path) :
    first.Apart second := by
  cases secondAim : second.target? with
  | some other =>
    obtain ⟨path, firstAim, different⟩ :=
      elsewhere other (by simp [Op.concerns, secondAim])
    exact ⟨path, other, firstAim, secondAim, different⟩
  | none =>
    -- The second operation concerns all paths, also the one that the first is about.
    have everywhere : ∀ path, first.IsElsewhere path := by
      intro path
      exact elsewhere path (by simp [Op.concerns, secondAim])
    obtain ⟨path, firstAim, _⟩ := everywhere ""
    obtain ⟨again, againAim, different⟩ := everywhere path
    exact absurd (Option.some.inj (againAim.symm.trans firstAim)) different

section Commuting

variable {first second : Op}

/-- What an operation gives back and what it counts depend on the record of its own file. -/
theorem apply_congr {store other : FileStore} {op : Op} {path : String}
    (aim : op.target? = some path) (same : store.get? path = other.get? path) :
    (store.apply op).2 = (other.apply op).2 ∧ op.changes store = op.changes other := by
  have recordEq : store.recordOf path = other.recordOf path := by
    rw [recordOf, recordOf, same]
  cases op with
  | update target content =>
    obtain rfl := Option.some.inj aim
    simp only [apply, updatedVersion, Op.changes, recordEq, and_self]
  | refresh target content =>
    obtain rfl := Option.some.inj aim
    cases known : other.get? target with
    | none => simp [apply, refresh, Op.changes, contains, same, known]
    | some record => simp [apply, refresh, Op.changes, contains, same, known]
  | track disk target =>
    obtain rfl := Option.some.inj aim
    refine ⟨?_, rfl⟩
    simp only [apply, track, recordEq]
    cases (other.recordOf target).content with
    | some content => rfl
    | none =>
      cases disk.read target with
      | error cause => rfl
      | ok content => rfl
  | untrack target =>
    obtain rfl := Option.some.inj aim
    simp only [apply, Op.changes, same, and_self]
  | drain => cases aim

/-- After an operation about another file, an operation gives back and counts the same. -/
theorem Op.Apart.apply_congr (apart : first.Apart second) (store : FileStore) :
    ((store.apply first).1.apply second).2 = (store.apply second).2 ∧
      second.changes (store.apply first).1 = second.changes store := by
  obtain ⟨path, other, firstAim, secondAim, different⟩ := apart
  apply FileStore.apply_congr secondAim
  rw [get?_apply, Op.onRecord_of_other]
  simpa [firstAim] using different

/-- Being about different files goes both ways. -/
theorem Op.Apart.symm (apart : first.Apart second) : second.Apart first := by
  obtain ⟨path, other, firstAim, secondAim, different⟩ := apart
  exact ⟨other, path, secondAim, firstAim, different.symm⟩

/-- Operations about different files commute. -/
theorem Op.Apart.apply_comm (apart : first.Apart second) (store : FileStore) :
    ((store.apply first).1.apply second).1 = ((store.apply second).1.apply first).1 := by
  ext path : 1
  · simp only [get?_apply]
    rcases apart.isElsewhere path with elsewhere | elsewhere
    · rw [Op.onRecord_of_other elsewhere.target?_ne, Op.onRecord_of_other elsewhere.target?_ne]
    · rw [Op.onRecord_of_other elsewhere.target?_ne, Op.onRecord_of_other elsewhere.target?_ne]
  · simp only [isModified_apply]
    rcases apart.isElsewhere path with elsewhere | elsewhere
    · rw [elsewhere.onMark_eq, elsewhere.onMark_eq, contains_apply_of_other elsewhere.target?_ne]
    · rw [elsewhere.onMark_eq, elsewhere.onMark_eq, contains_apply_of_other elsewhere.target?_ne]
  · have firstCount := (apart.symm.apply_congr store).2
    have secondCount := (apart.apply_congr store).2
    simp only [programVersion_apply, firstCount, secondCount]
    omega

end Commuting

/-- The operations of a history, each with what it gives back. -/
def transcript : FileStore → List Op → List (Op × Answer)
  | _, [] => []
  | store, op :: ops => (op, (store.apply op).2) :: (store.apply op).1.transcript ops

/-- Two histories of a store come to the same: they leave one store, and the operations that
concern a path are the same and give back the same, one after the other. -/
structure Alike (store : FileStore) (first second : List Op) : Prop where
  run_eq : store.run first = store.run second
  answers_eq : ∀ path,
    (store.transcript first).filter (fun entry => entry.1.concerns path) =
      (store.transcript second).filter (fun entry => entry.1.concerns path)

namespace Alike

variable {store : FileStore} {first second third : List Op}

/-- A history comes to the same as itself. -/
theorem refl (store : FileStore) (ops : List Op) : Alike store ops ops :=
  ⟨rfl, fun _ => rfl⟩

/-- What comes to the same as a third history by way of a second one comes to the same. -/
theorem trans (early : Alike store first second) (late : Alike store second third) :
    Alike store first third where
  run_eq := early.run_eq.trans late.run_eq
  answers_eq path := (early.answers_eq path).trans (late.answers_eq path)

/-- Coming to the same goes both ways. -/
theorem symm (alike : Alike store first second) : Alike store second first where
  run_eq := alike.run_eq.symm
  answers_eq path := (alike.answers_eq path).symm

/-- Histories that start with one operation come to the same if what follows does. -/
theorem cons {op : Op} (rest : Alike (store.apply op).1 first second) :
    Alike store (op :: first) (op :: second) where
  run_eq := rest.run_eq
  answers_eq path := by
    simp only [transcript, List.filter_cons, rest.answers_eq path]

/-- Two operations about different files may change places. -/
theorem swap {front back : Op} (apart : front.Apart back) (ops : List Op) :
    Alike store (front :: back :: ops) (back :: front :: ops) where
  run_eq := by
    simp only [run_cons, apart.apply_comm]
  answers_eq path := by
    have frontSame := (apart.symm.apply_congr store).1
    have backSame := (apart.apply_congr store).1
    simp only [transcript, frontSame, backSame, apart.apply_comm]
    -- One of the two is filtered out, so their order does not show.
    rcases apart.isElsewhere path with elsewhere | elsewhere
    · simp [List.filter_cons, Op.concerns_eq_false_iff.mpr elsewhere]
    · simp [List.filter_cons, Op.concerns_eq_false_iff.mpr elsewhere]

/-- An operation may come before all that is about other files. -/
theorem to_front {op : Op} {before : List Op} (apart : ∀ other ∈ before, other.Apart op)
    (after : List Op) : Alike store (before ++ op :: after) (op :: (before ++ after)) := by
  induction before generalizing store with
  | nil => exact refl store _
  | cons other before ih =>
    obtain ⟨here, later⟩ := List.forall_mem_cons.mp apart
    exact (cons (ih later)).trans (swap here _)

end Alike

section SameSequences

variable {op : Op} {ops other first second : List Op}

/-- Where the first operation of a history stands in another one that does the same for every
path, it is preceded by operations about other files only. -/
theorem exists_split_of_filter_eq
    (same : ∀ path, (op :: ops).filter (Op.concerns path) = other.filter (Op.concerns path)) :
    ∃ before after, other = before ++ op :: after ∧ (∀ early ∈ before, early.Apart op) ∧
      ∀ path, ops.filter (Op.concerns path) = (before ++ after).filter (Op.concerns path) := by
  have isMember : op ∈ other := by
    obtain ⟨path, concerned⟩ := op.exists_concerns
    have kept : op ∈ (op :: ops).filter (Op.concerns path) :=
      List.mem_filter.mpr ⟨List.mem_cons_self .., concerned⟩
    rw [same] at kept
    exact (List.mem_filter.mp kept).1
  obtain ⟨before, after, rfl, isFirst⟩ := List.eq_append_cons_of_mem isMember
  -- On a path that the operation concerns, the other history starts with it as well.
  have untouched : ∀ path, op.concerns path = true → before.filter (Op.concerns path) = [] := by
    intro path concerned
    have sequence := same path
    rw [List.filter_cons_of_pos concerned, List.filter_append] at sequence
    cases early : before.filter (Op.concerns path) with
    | nil => rfl
    | cons head rest =>
      rw [early] at sequence
      obtain rfl : op = head := (List.cons.inj sequence).1
      have kept : op ∈ before.filter (Op.concerns path) := by simp [early]
      exact absurd (List.mem_filter.mp kept).1 isFirst
  refine ⟨before, after, rfl, ?_, ?_⟩
  · intro early member
    apply Op.apart_of_isElsewhere
    intro path concerned
    have dropped := List.filter_eq_nil_iff.mp (untouched path concerned) early member
    exact Op.concerns_eq_false_iff.mp (by simpa using dropped)
  · intro path
    have sequence := same path
    cases concerned : op.concerns path with
    | true => simpa [concerned, untouched path concerned] using sequence
    | false => simpa [concerned] using sequence

/-- Histories with the same operations for each path come to the same. -/
theorem Alike.of_filter_eq
    (same : ∀ path, first.filter (Op.concerns path) = second.filter (Op.concerns path))
    (store : FileStore) : Alike store first second := by
  induction first generalizing store second with
  | nil =>
    cases second with
    | nil => exact .refl store []
    | cons op ops =>
      obtain ⟨path, concerned⟩ := op.exists_concerns
      have sequence := same path
      simp [concerned] at sequence
  | cons op ops ih =>
    obtain ⟨before, after, rfl, apart, rest⟩ := exists_split_of_filter_eq same
    exact (Alike.cons (ih rest _)).trans (Alike.to_front apart after).symm

end SameSequences

/-- A history carries out a sequence of operations for each path, in any order between
different paths. A reading comes with its disk, so a sequence also says what is read. Taking
the modified paths is part of the sequence of every path. -/
def Interleaves (sequences : String → List Op) (ops : List Op) : Prop :=
  ∀ path, ops.filter (Op.concerns path) = sequences path

/-- Two histories that carry out the same sequence of operations for each path come to the
same, whatever store they start from. -/
theorem interleavings_alike (store : FileStore) {sequences : String → List Op}
    {first second : List Op} (firstOrder : Interleaves sequences first)
    (secondOrder : Interleaves sequences second) : Alike store first second := by
  apply Alike.of_filter_eq
  intro path
  rw [firstOrder path, secondOrder path]

/-- Reading a file where every file has the same text. -/
def readingOld (path : String) : Op :=
  .track ⟨fun _ => .ok "old", fun _ => true⟩ path

/-- What two builds do, each to a file of its own. -/
def sequencesOfTwoBuilds (path : String) : List Op :=
  if path = "/a.ts" then [.update "/a.ts" "one", .refresh "/a.ts" "two", .untrack "/a.ts"]
  else if path = "/b.ts" then [readingOld "/b.ts", .update "/b.ts" "one"]
  else []

/-- One build waits for the other. -/
def oneAfterTheOther : List Op :=
  [.update "/a.ts" "one", .refresh "/a.ts" "two", .untrack "/a.ts", readingOld "/b.ts",
    .update "/b.ts" "one"]

/-- The builds take turns. -/
def inTurns : List Op :=
  [readingOld "/b.ts", .update "/a.ts" "one", .update "/b.ts" "one", .refresh "/a.ts" "two",
    .untrack "/a.ts"]

private theorem interleaves_sequencesOfTwoBuilds {ops : List Op}
    (atFirst : ops.filter (Op.concerns "/a.ts") = sequencesOfTwoBuilds "/a.ts")
    (atSecond : ops.filter (Op.concerns "/b.ts") = sequencesOfTwoBuilds "/b.ts")
    (aims : ∀ op ∈ ops, op.target? = some "/a.ts" ∨ op.target? = some "/b.ts") :
    Interleaves sequencesOfTwoBuilds ops := by
  intro path
  by_cases isFirst : path = "/a.ts"
  · rw [isFirst, atFirst]
  · by_cases isSecond : path = "/b.ts"
    · rw [isSecond, atSecond]
    · rw [sequencesOfTwoBuilds, if_neg isFirst, if_neg isSecond, List.filter_eq_nil_iff]
      intro op member
      rcases aims op member with aim | aim
      · simpa [Op.concerns, aim] using Ne.symm isFirst
      · simpa [Op.concerns, aim] using Ne.symm isSecond

/-- Whether one build waits for the other or they take turns comes to the same. -/
theorem interleavings_alike_for_two_builds :
    Interleaves sequencesOfTwoBuilds oneAfterTheOther ∧
      Interleaves sequencesOfTwoBuilds inTurns ∧ Alike ∅ oneAfterTheOther inTurns := by
  have waiting : Interleaves sequencesOfTwoBuilds oneAfterTheOther :=
    interleaves_sequencesOfTwoBuilds rfl rfl
      (by simp [oneAfterTheOther, readingOld, Op.target?])
  have turns : Interleaves sequencesOfTwoBuilds inTurns :=
    interleaves_sequencesOfTwoBuilds rfl rfl (by simp [inTurns, readingOld, Op.target?])
  exact ⟨waiting, turns, interleavings_alike ∅ waiting turns⟩

end ScriptLoader.FileStore
