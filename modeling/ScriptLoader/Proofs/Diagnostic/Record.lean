import ScriptLoader.Diagnostic.Record

/-!
# What a record says of its diagnostic

A record has the text, the file and the location of its diagnostic. Only the message depends on the
error format: it is the text alone, or the text with what the format shows of the location in front
of it or behind it (`ErrorFormat.framing`). `Recorded` says all this of one diagnostic.
-/

namespace ScriptLoader

/-- A position whose line and character fit 32 bits when they are counted from 1. -/
def Position.Fits (position : Position) : Prop :=
  position.line < 0xFFFFFFFF ∧ position.character < 0xFFFFFFFF

/-- A location that is counted from 1 and fits 32 bits. -/
def Location.Fits (location : Location) : Prop :=
  (0 < location.line ∧ location.line < 0x100000000) ∧
    0 < location.character ∧ location.character < 0x100000000

/-- What a format shows of a location, in front of a text and behind it. -/
def ErrorFormat.framing (file : String) (location : Location) : ErrorFormat → String × String
  | .default => (s!"({location.line},{location.character}): ", "")
  | .visualStudio => (s!"{file}({location.line},{location.character}): ", "")
  | .webStorm => ("", s!"\nat {file}:{location.line}:{location.character}")

/-- Records that differ in nothing but the message. -/
def ErrorRecord.SameButMessage (first second : ErrorRecord) : Prop :=
  second = { first with message := second.message }

namespace Diagnostic

private theorem toString_text (text : String) : toString text = text :=
  rfl

section Located

variable (format : ErrorFormat) (file text : String) (location : Location)

/-- A message with a location is the text in the frame of its format. -/
theorem located_eq : located format file text location =
    (format.framing file location).1 ++ text ++ (format.framing file location).2 := by
  cases format <;> simp [located, ErrorFormat.framing, toString_text, String.append_assoc]

/-- Every format shows something. -/
theorem located_ne_text : located format file text location ≠ text := by
  -- What is shown holds a bracket or a colon, so the message is longer than the text.
  have paren : "(".length = 1 := rfl
  have colon : ":".length = 1 := rfl
  intro same
  have lengths := congrArg String.length same
  cases format <;> simp only [located, toString_text, String.length_append] at lengths <;> omega

end Located

/-- A location that is counted from 1 fits if the position does. -/
theorem fits_locationOf {start : Position} (fits : start.Fits) : (locationOf start).Fits := by
  obtain ⟨line, character⟩ := fits
  unfold Location.Fits locationOf
  dsimp only
  omega

/-- What the record of a diagnostic says. -/
structure Recorded (directory : String) (format : ErrorFormat) (module : String)
    (diagnostic : Diagnostic) (record : ErrorRecord) : Prop where
  rawMessage_eq : record.rawMessage =
    diagnostic.category.name ++ " TS" ++ toString diagnostic.code ++ ": " ++ diagnostic.message
  module_eq : record.module = module
  /-- The file is there even if the diagnostic does not say where in it. -/
  file_eq : record.file = diagnostic.file.map (Path.normalize directory)
  located_iff : record.location.isSome = true ↔
    diagnostic.file.isSome = true ∧ diagnostic.start.isSome = true
  location_eq : ∀ location ∈ record.location, ∃ start ∈ diagnostic.start,
    location.line = start.line + 1 ∧ location.character = start.character + 1 ∧ location.Fits
  /-- The message shows a location as the format says. -/
  framed : ∀ location ∈ record.location, ∃ file ∈ record.file,
    record.message = (format.framing file location).1 ++ record.rawMessage ++
        (format.framing file location).2 ∧
      record.message ≠ record.rawMessage
  plain : record.location = none → record.message = record.rawMessage

section Record

variable {diagnostic : Diagnostic}

/-- A diagnostic has a location if it has a file and a start. -/
theorem location?_eq_some_iff {location : Location} :
    diagnostic.location? = some location ↔
      ∃ file start, diagnostic.file = some file ∧ diagnostic.start = some start ∧
        locationOf start = location := by
  cases file : diagnostic.file <;> simp [location?, file]

variable (directory : String) (format : ErrorFormat) (module : String)

/-- The record of a diagnostic says what the diagnostic does. -/
theorem recorded_record (fits : ∀ start ∈ diagnostic.start, start.Fits) :
    diagnostic.Recorded directory format module (diagnostic.record directory format module) where
  rawMessage_eq := by simp [record, rawMessage, toString_text]
  module_eq := rfl
  file_eq := rfl
  located_iff := by
    cases file : diagnostic.file <;> simp [record, location?, file]
  location_eq := by
    intro location shown
    obtain ⟨_, start, -, hasStart, rfl⟩ := location?_eq_some_iff.mp shown
    exact ⟨start, hasStart, rfl, rfl, fits_locationOf (fits start hasStart)⟩
  framed := by
    intro location shown
    obtain ⟨file, start, hasFile, hasStart, rfl⟩ := location?_eq_some_iff.mp shown
    have messageEq : (diagnostic.record directory format module).message =
        located format (Path.normalize directory file) diagnostic.rawMessage (locationOf start) := by
      simp [record, hasFile, hasStart]
    refine ⟨Path.normalize directory file, by simp [record, hasFile], ?_, ?_⟩
    · rw [messageEq, located_eq]
      rfl
    · rw [messageEq]
      exact located_ne_text format _ diagnostic.rawMessage _
  plain := by
    intro unlocated
    cases hasFile : diagnostic.file with
    | none => simp [record, hasFile]
    | some file =>
      have noStart : diagnostic.start = none := by
        simpa [record, location?, hasFile] using unlocated
      simp [record, noStart]

/-- The format makes a difference to the message only. -/
theorem record_sameButMessage (other : ErrorFormat) (diagnostic : Diagnostic) :
    (diagnostic.record directory format module).SameButMessage
      (diagnostic.record directory other module) :=
  rfl

end Record

/-- The diagnostics that are reported are those whose codes are not ignored. -/
theorem records_eq (directory : String) (options : LoaderOptions) (module : String)
    (diagnostics : List Diagnostic) :
    records directory options module diagnostics =
      (diagnostics.filter fun diagnostic => diagnostic.code ∉ options.ignoreDiagnostics).map
        (record directory options.errorFormat module) := by
  simp [records, LoaderOptions.isIgnored]

end Diagnostic

end ScriptLoader
