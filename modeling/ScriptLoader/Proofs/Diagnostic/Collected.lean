import Mathlib.Data.List.Forall2
import ScriptLoader.Proofs.Diagnostic.Record

/-!
# Records that are collected over many batches

Each batch of diagnostics is put into records and registered in one list, in front of what it holds
already. So the list has the batches in reverse order, each in its own (`registerAll_eq`), and every
diagnostic that is reported has its record at a place that its batch and its position decide. The
formats of the batches matter for the messages alone.
-/

namespace ScriptLoader

/-- Options that differ in nothing but the flags of the error format. -/
def LoaderOptions.SameButFormat (first second : LoaderOptions) : Prop :=
  second = { first with
    visualStudioErrorFormat := second.visualStudioErrorFormat
    webStormErrorFormat := second.webStormErrorFormat }

namespace Diagnostic

/-- Diagnostics that are put into records and registered together. -/
structure Batch where
  options : LoaderOptions
  module : String
  diagnostics : List Diagnostic

namespace Batch

/-- The diagnostics of a batch that are reported. -/
def reported (batch : Batch) : List Diagnostic :=
  batch.diagnostics.filter fun diagnostic => diagnostic.code ∉ batch.options.ignoreDiagnostics

/-- The records of a batch. -/
def records (directory : String) (batch : Batch) : List ErrorRecord :=
  Diagnostic.records directory batch.options batch.module batch.diagnostics

/-- A list of records after batches are registered in it, one after the other. -/
def registerAll (directory : String) (collected : List ErrorRecord) (batches : List Batch) :
    List ErrorRecord :=
  batches.foldl (fun collected batch => ErrorRecord.register collected (batch.records directory))
    collected

/-- The diagnostics that are reported, with their batches, those of the newest batch first. -/
def sources (batches : List Batch) : List (Batch × Diagnostic) :=
  batches.reverse.flatMap fun batch => batch.reported.map (batch, ·)

/-- Batches that differ in nothing but the flags of the error format. -/
structure SameButFormat (first second : Batch) : Prop where
  options : first.options.SameButFormat second.options
  module_eq : second.module = first.module
  diagnostics_eq : second.diagnostics = first.diagnostics

section Register

variable {directory : String} {first second : Batch} {firstList secondList : List ErrorRecord}

/-- The records of a batch are those of the diagnostics that it reports. -/
theorem records_eq (directory : String) (batch : Batch) :
    batch.records directory =
      batch.reported.map (record directory batch.options.errorFormat batch.module) :=
  Diagnostic.records_eq ..

/-- Registering batches puts each in front of those before it. -/
theorem registerAll_eq (directory : String) (collected : List ErrorRecord) (batches : List Batch) :
    registerAll directory collected batches =
      (batches.reverse.map (records directory)).flatten ++ collected := by
  induction batches generalizing collected with
  | nil => rfl
  | cons batch rest ih =>
    -- The first batch is part of what the others are put in front of.
    rw [registerAll, List.foldl_cons, ← registerAll, ih, ErrorRecord.register]
    simp

/-- Each record of the list is that of a diagnostic. -/
theorem registerAll_eq_map_sources (directory : String) (batches : List Batch) :
    registerAll directory [] batches =
      (sources batches).map fun source =>
        source.2.record directory source.1.options.errorFormat source.1.module := by
  rw [registerAll_eq, List.append_nil, sources, List.map_flatMap, List.flatMap_def]
  refine congrArg List.flatten (List.map_congr_left fun batch _ => ?_)
  rw [records_eq, List.map_map]
  rfl

/-- The diagnostics that are reported come from the batches that were registered. -/
theorem mem_sources_iff {batches : List Batch} {batch : Batch} {diagnostic : Diagnostic} :
    (batch, diagnostic) ∈ sources batches ↔ batch ∈ batches ∧ diagnostic ∈ batch.reported := by
  simp [sources]

/-- Options that differ in the format only ignore the same codes. -/
theorem SameButFormat.reported_eq (same : first.SameButFormat second) :
    second.reported = first.reported := by
  unfold reported
  rw [same.options, same.diagnostics_eq]

/-- Batches that differ in the format only have records that differ in the message only. -/
theorem SameButFormat.records (same : first.SameButFormat second) :
    List.Forall₂ ErrorRecord.SameButMessage (first.records directory) (second.records directory) := by
  rw [records_eq, records_eq, same.reported_eq, same.module_eq, List.forall₂_map_left_iff,
    List.forall₂_map_right_iff, List.forall₂_same]
  intro diagnostic _
  exact record_sameButMessage ..

/-- The format of batches does not matter for what is registered but for the messages. -/
theorem SameButFormat.registerAll {batches others : List Batch}
    (same : List.Forall₂ SameButFormat batches others)
    (before : List.Forall₂ ErrorRecord.SameButMessage firstList secondList) :
    List.Forall₂ ErrorRecord.SameButMessage (registerAll directory firstList batches)
      (registerAll directory secondList others) := by
  induction same generalizing firstList secondList with
  | nil => exact before
  | cons first _ ih => exact ih (List.rel_append first.records before)

end Register

/-- The list that batches leave. -/
structure Collected (directory : String) (batches : List Batch) : Prop where
  /-- The newest batch comes first, each in its own order, and what the list held is behind them. -/
  eq_flatten : ∀ collected, registerAll directory collected batches =
    (batches.reverse.map (records directory)).flatten ++ collected
  /-- Each diagnostic that is reported has its record, in that order, and there is no other. -/
  each : List.Forall₂
    (fun source => source.2.Recorded directory source.1.options.errorFormat source.1.module)
    (sources batches) (registerAll directory [] batches)
  formats : ∀ others, List.Forall₂ SameButFormat batches others →
    List.Forall₂ ErrorRecord.SameButMessage (registerAll directory [] batches)
      (registerAll directory [] others)

/-- Whatever batches are registered in one list, it has the records of all of them, the newest batch
first. -/
theorem collected_newest_first {batches : List Batch}
    (fits : ∀ batch ∈ batches, ∀ diagnostic ∈ batch.diagnostics, ∀ start ∈ diagnostic.start,
      start.Fits) (directory : String) : Collected directory batches where
  eq_flatten collected := registerAll_eq directory collected batches
  each := by
    rw [registerAll_eq_map_sources, List.forall₂_map_right_iff, List.forall₂_same]
    rintro ⟨batch, diagnostic⟩ among
    obtain ⟨isBatch, isReported⟩ := mem_sources_iff.mp among
    exact recorded_record _ _ _ (fits batch isBatch diagnostic (List.mem_filter.mp isReported).1)
  formats _ same := SameButFormat.registerAll same .nil

/-- A batch with an ignored code, a file without a start, and the last character that fits, and then
a batch for which both flags are set, with a start that no file goes with. -/
def twoBatches : List Batch :=
  [⟨{ LoaderOptions.defaults "" with visualStudioErrorFormat := true, ignoreDiagnostics := [7] },
      "a",
      [⟨2322, .error, "first", some "/src/./a.ts", some ⟨4, 4294967294⟩⟩,
        ⟨7, .error, "second", none, none⟩, ⟨6053, .warning, "third", some "/src/b.ts", none⟩]⟩,
    ⟨{ LoaderOptions.defaults "" with
        visualStudioErrorFormat := true, webStormErrorFormat := true }, "b",
      [⟨2345, .error, "fourth", some "c.ts", some ⟨0, 11⟩⟩,
        ⟨1, .suggestion, "fifth", none, some ⟨0, 0⟩⟩]⟩]

/-- The records of the second batch stand in front of those of the first, each in the format of its
batch. -/
theorem collected_of_two_batches :
    (∀ batch ∈ twoBatches, ∀ diagnostic ∈ batch.diagnostics, ∀ start ∈ diagnostic.start,
        start.Fits) ∧
      Collected "/src" twoBatches ∧
      (registerAll "/src" [] twoBatches).map (fun record => (record.message, record.file)) =
        [("error TS2345: fourth\nat /src/c.ts:1:12", some "/src/c.ts"),
          ("suggestion TS1: fifth", none),
          ("/src/a.ts(5,4294967295): error TS2322: first", some "/src/a.ts"),
          ("warning TS6053: third", some "/src/b.ts")] := by
  have fits : ∀ batch ∈ twoBatches, ∀ diagnostic ∈ batch.diagnostics,
      ∀ start ∈ diagnostic.start, start.Fits := by
    simp [twoBatches, Position.Fits]
  exact ⟨fits, collected_newest_first fits "/src", by decide +kernel⟩

end Batch

end Diagnostic

end ScriptLoader
