import ScriptLoader.Proofs.Diagnostic.Record
import ScriptLoader.Proofs.Instance.DependencyReport
import ScriptLoader.Proofs.Path.Kind
import ScriptLoader.Proofs.SourceMap.Stripping

/-!
# Whether a request succeeds, and with what

A compiler may emit any files in any order. The output of a request is the last of its scripts and
the map the last of its source maps (`ProgramOutput.IsLast`); no file is both, since the names of
the two kinds end in different letters. `Verdict` lists the causes of failure in the order in which
they are found, and what a request gives if there is none.
-/

namespace ScriptLoader

namespace ProgramOutput

/-- A file is the last one of an output whose name is of a kind. -/
def IsLast (output : ProgramOutput) (Wanted : String → Prop) (file : OutputFile) : Prop :=
  Wanted file.name ∧ ∃ front back, output.files = front ++ file :: back ∧
    ∀ later ∈ back, ¬ Wanted later.name

variable {output : ProgramOutput} {isWanted : String → Bool} {Wanted : String → Prop}

/-- The text that is taken from an output is that of the last file of a kind. -/
theorem lastText?_eq_some_iff (decides : ∀ name, isWanted name = true ↔ Wanted name)
    {text : String} :
    output.lastText? isWanted = some text ↔
      ∃ file, output.IsLast Wanted file ∧ file.text = text := by
  rw [lastText?, List.getLast?_filter, Option.map_eq_some_iff]
  refine exists_congr fun file => and_congr_left fun _ => ?_
  rw [List.find?_eq_some_iff_append, IsLast, decides]
  refine and_congr_right fun _ => ?_
  constructor
  · rintro ⟨back, front, split, none⟩
    refine ⟨front.reverse, back.reverse, ?_, ?_⟩
    · simpa using congrArg List.reverse split
    · simpa [← decides] using none
  · rintro ⟨front, back, split, none⟩
    refine ⟨back.reverse, front.reverse, ?_, ?_⟩
    · simp [split]
    · simpa [← decides] using none

/-- No text is taken from an output without files of a kind. -/
theorem lastText?_eq_none_iff (decides : ∀ name, isWanted name = true ↔ Wanted name) :
    output.lastText? isWanted = none ↔ ∀ file ∈ output.files, ¬ Wanted file.name := by
  simp [lastText?, decides]

end ProgramOutput

namespace EmitRequest

/-- What the compiler of a request gives, asked with the content of the request in place. -/
def compiled (workspace : Workspace) (options : LoaderOptions) (compiler : Compiler)
    (state : InstanceState) (request : EmitRequest) : Except LoaderError ProgramOutput :=
  let path := request.path workspace options
  ((compiler.emit path).run workspace options
    { state with files := state.files.update path request.content }).result

/-- Whether a request succeeds, and with what, by what its compiler gives. -/
structure Verdict (workspace : Workspace) (options : LoaderOptions) (request : EmitRequest)
    (compiled : Except LoaderError ProgramOutput) (result : Except LoaderError EmitResult) :
    Prop where
  failed : ∀ cause, compiled = .error cause → result = .error cause
  /-- Without a script there is no output, whatever else is emitted. -/
  noOutput : ∀ output, compiled = .ok output →
    (∀ file ∈ output.files, ¬ Path.IsScriptName file.name) →
    result = .error (.noOutput (request.path workspace options))
  brokenMap : ∀ output script map, compiled = .ok output →
    output.IsLast Path.IsScriptName script → output.IsLast Path.IsMapName map →
    map.text ≠ "" → (∀ read, SourceMap.ofText map.text ≠ .ok read) →
    ∃ detail, result = .error (.serialization detail)
  /-- Without a map, or with an empty one, the script is left as it is. -/
  plain : ∀ output script, compiled = .ok output → output.IsLast Path.IsScriptName script →
    (∀ map, output.IsLast Path.IsMapName map → map.text = "") →
    ∃ made, result = .ok made ∧ made.output = script.text ∧ made.sourceMap = none
  mapped : ∀ output script map read, compiled = .ok output →
    output.IsLast Path.IsScriptName script → output.IsLast Path.IsMapName map →
    SourceMap.ofText map.text = .ok read →
    ∃ made, result = .ok made ∧ SourceMap.Stripping script.text made.output ∧
      made.sourceMap =
        some (read.attach request.remaining (request.path workspace options) request.content)
  succeeds_iff : (∃ made, result = .ok made) ↔ ∃ output script, compiled = .ok output ∧
    output.IsLast Path.IsScriptName script ∧
    ∀ map, output.IsLast Path.IsMapName map →
      map.text = "" ∨ ∃ read, SourceMap.ofText map.text = .ok read
  /-- The script and the map are not taken from one file. -/
  apart : ∀ output script map, compiled = .ok output →
    output.IsLast Path.IsScriptName script → output.IsLast Path.IsMapName map → script ≠ map
  errors : ∀ output made, compiled = .ok output → result = .ok made →
    made.errors =
      (output.diagnostics.filter fun diagnostic =>
        diagnostic.code ∉ options.ignoreDiagnostics).map
        (Diagnostic.record workspace.directory options.errorFormat request.module)

variable {workspace : Workspace} {options : LoaderOptions} {request : EmitRequest}

/-- The result of a request from what its compiler emits. -/
def conclude (workspace : Workspace) (options : LoaderOptions) (request : EmitRequest)
    (version : Nat) (final : InstanceState) (output : ProgramOutput) :
    Except LoaderError EmitResult :=
  let path := request.path workspace options
  request.finish path version (request.ofProgram workspace.directory options final path output)

/-- In full mode, the result of a request is concluded from what its compiler gives. -/
theorem result_emit (full : options.transpileOnly = false) (compiler : Compiler)
    (state : InstanceState) :
    ∃ version final, (request.emit workspace options compiler state).result =
      (request.compiled workspace options compiler state).bind
        (request.conclude workspace options version final) := by
  let path := request.path workspace options
  let supplied : InstanceState :=
    { state with files := state.files.update path request.content }
  refine ⟨state.files.updatedVersion path request.content,
    ((compiler.emit path).run workspace options supplied).state, ?_⟩
  simp only [emit, full, Bool.false_eq_true, if_false]
  rfl

section Conclude

variable {version : Nat} {final : InstanceState} {output : ProgramOutput} {script : OutputFile}

/-- Without a script there is no output to conclude from. -/
theorem conclude_of_noScript (noScript : ∀ file ∈ output.files, ¬ Path.IsScriptName file.name) :
    request.conclude workspace options version final output =
      .error (.noOutput (request.path workspace options)) := by
  have absent : output.lastText? Path.isScript = none :=
    (ProgramOutput.lastText?_eq_none_iff Path.isScript_iff).mpr noScript
  simp only [conclude, finish, ofProgram, absent]

/-- The result is put together from what is made of the script and of the map. -/
theorem conclude_of_script (isScript : output.IsLast Path.IsScriptName script) :
    ∃ result : String × Option SourceMap → EmitResult,
      request.conclude workspace options version final output =
        result <$> SourceMap.make (output.lastText? Path.isScriptMap) script.text
          (request.path workspace options) request.content request.remaining ∧
      ∀ made, (result made).output = made.1 ∧ (result made).sourceMap = made.2 ∧
        (result made).errors =
          Diagnostic.records workspace.directory options request.module output.diagnostics := by
  have found : output.lastText? Path.isScript = some script.text :=
    (ProgramOutput.lastText?_eq_some_iff Path.isScript_iff).mpr ⟨script, isScript, rfl⟩
  let path := request.path workspace options
  let emitted := request.ofProgram workspace.directory options final path output
  refine ⟨fun made => ⟨path, made.1, made.2, emitted.dependencies, version,
    emitted.definitionVersions, emitted.errors⟩, ?_, fun made => ⟨rfl, rfl, rfl⟩⟩
  simp only [conclude, finish, ofProgram, found]
  cases SourceMap.make (output.lastText? Path.isScriptMap) script.text
    (request.path workspace options) request.content request.remaining <;> rfl

/-- The text of the map is that of the last one, if there is one. -/
theorem mem_lastText?_isScriptMap_iff {text : String} :
    text ∈ output.lastText? Path.isScriptMap ↔
      ∃ map, output.IsLast Path.IsMapName map ∧ map.text = text :=
  ProgramOutput.lastText?_eq_some_iff Path.isScriptMap_iff

end Conclude

/-- What makes a result is a script, and a map that is absent, empty or valid. -/
theorem conclude_eq_ok {version : Nat} {final : InstanceState} {output : ProgramOutput}
    {made : EmitResult}
    (success : request.conclude workspace options version final output = .ok made) :
    ∃ script, output.IsLast Path.IsScriptName script ∧
      (∀ map, output.IsLast Path.IsMapName map →
        map.text = "" ∨ ∃ read, SourceMap.ofText map.text = .ok read) ∧
      made.errors =
        Diagnostic.records workspace.directory options request.module output.diagnostics := by
  cases found : output.lastText? Path.isScript with
  | none =>
    have noScript := (ProgramOutput.lastText?_eq_none_iff Path.isScript_iff).mp found
    rw [conclude_of_noScript noScript] at success
    cases success
  | some text =>
    obtain ⟨script, isScript, -⟩ :=
      (ProgramOutput.lastText?_eq_some_iff Path.isScript_iff).mp found
    obtain ⟨result, concluded, facts⟩ := conclude_of_script isScript
    obtain ⟨outcome, accepted, rfl⟩ := map_eq_ok.mp (concluded.symm.trans success)
    refine ⟨script, isScript, fun map isMap => ?_, (facts outcome).2.2⟩
    exact SourceMap.exists_make_eq_ok_iff.mp ⟨outcome, accepted⟩ map.text
      (mem_lastText?_isScriptMap_iff.mpr ⟨map, isMap, rfl⟩)

/-- What a compiler gives decides about the request. -/
theorem verdict_of_conclude {compiled : Except LoaderError ProgramOutput} {version : Nat}
    {final : InstanceState} :
    request.Verdict workspace options compiled
      (compiled.bind (request.conclude workspace options version final)) where
  failed := by
    rintro cause rfl
    rfl
  noOutput := by
    rintro output rfl noScript
    exact conclude_of_noScript noScript
  brokenMap := by
    rintro output script map rfl isScript isMap nonempty broken
    obtain ⟨result, concluded, -⟩ := conclude_of_script isScript
    have mapText := mem_lastText?_isScriptMap_iff.mpr ⟨map, isMap, rfl⟩
    cases refused : SourceMap.ofText map.text with
    | ok read => exact absurd refused (broken read)
    | error cause =>
      obtain ⟨detail, rfl⟩ := SourceMap.exists_serialization_of_ofText refused
      refine ⟨detail, ?_⟩
      rw [Except.bind, concluded, mapText, SourceMap.make_of_refused nonempty refused]
      rfl
  plain := by
    rintro output script rfl isScript empty
    obtain ⟨result, concluded, facts⟩ := conclude_of_script isScript
    have absent : output.lastText? Path.isScriptMap = none ∨
        output.lastText? Path.isScriptMap = some "" := by
      cases found : output.lastText? Path.isScriptMap with
      | none => exact .inl rfl
      | some text =>
        obtain ⟨map, isMap, rfl⟩ := mem_lastText?_isScriptMap_iff.mp found
        rw [empty map isMap]
        exact .inr rfl
    refine ⟨result (script.text, none), ?_, (facts _).1, (facts _).2.1⟩
    rw [Except.bind, concluded, SourceMap.make_of_absent absent]
    rfl
  mapped := by
    rintro output script map read rfl isScript isMap valid
    obtain ⟨result, concluded, facts⟩ := conclude_of_script isScript
    have mapText := mem_lastText?_isScriptMap_iff.mpr ⟨map, isMap, rfl⟩
    refine ⟨result (SourceMap.strip script.text, some _), ?_, ?_, (facts _).2.1⟩
    · rw [Except.bind, concluded, mapText, SourceMap.make_of_accepted valid]
      rfl
    · rw [(facts _).1]
      exact SourceMap.stripping_strip script.text
  succeeds_iff := by
    constructor
    · rintro ⟨made, success⟩
      obtain ⟨output, rfl, success⟩ := bind_eq_ok.mp success
      obtain ⟨script, isScript, maps, -⟩ := conclude_eq_ok success
      exact ⟨output, script, rfl, isScript, maps⟩
    · rintro ⟨output, script, rfl, isScript, maps⟩
      obtain ⟨result, concluded, -⟩ := conclude_of_script isScript
      have accepted : ∀ text ∈ output.lastText? Path.isScriptMap,
          text = "" ∨ ∃ read, SourceMap.ofText text = .ok read := by
        intro text found
        obtain ⟨map, isMap, rfl⟩ := mem_lastText?_isScriptMap_iff.mp found
        exact maps map isMap
      obtain ⟨outcome, made⟩ := SourceMap.exists_make_eq_ok_iff.mpr accepted
      exact ⟨result outcome, concluded.trans (map_eq_ok.mpr ⟨outcome, made, rfl⟩)⟩
  apart := by
    rintro output script map rfl isScript isMap rfl
    exact isScript.1.not_isMapName isMap.1
  errors := by
    rintro output made rfl success
    obtain ⟨_, _, _, errorsEq⟩ := conclude_eq_ok success
    rw [errorsEq, Diagnostic.records_eq]

/-- A request in full mode succeeds or fails, and with what, by what its compiler gives. -/
theorem verdict_of_emit (full : options.transpileOnly = false) (compiler : Compiler)
    (state : InstanceState) (request : EmitRequest) :
    request.Verdict workspace options (request.compiled workspace options compiler state)
      (request.emit workspace options compiler state).result := by
  obtain ⟨version, final, resultEq⟩ := result_emit full compiler state
  rw [resultEq]
  exact verdict_of_conclude

/-- A compiler that emits a broken map of one script and then a script with its own map. -/
def shufflingCompiler : Compiler :=
  ⟨fun _ => .done (.ok ⟨[⟨"a.js.map", "broken"⟩, ⟨"b.jsx", "var b;\n//# sourceMappingURL=b"⟩,
      ⟨"b.jsx.map", "\x7b\"version\":3\x7d"⟩, ⟨"b.d.ts", ""⟩],
      [⟨1, .error, "first", none, none⟩, ⟨2, .warning, "second", none, none⟩,
        ⟨3, .error, "third", none, none⟩]⟩),
    fun _ => .error (.compiler "")⟩

/-- Options under which one code is ignored. -/
def quietOptions : LoaderOptions :=
  { LoaderOptions.defaults "" with ignoreDiagnostics := [2] }

/-- The script is taken with its own map, which is the last one, and the ignored diagnostic is left
out. -/
theorem verdict_of_shuffled_files :
    quietOptions.transpileOnly = false ∧
      (EmitRequest.plain (.ofString "/b.tsx") "let b").Verdict (uniformWorkspace "") quietOptions
        ((EmitRequest.plain (.ofString "/b.tsx") "let b").compiled (uniformWorkspace "")
          quietOptions shufflingCompiler ∅)
        ((EmitRequest.plain (.ofString "/b.tsx") "let b").emit (uniformWorkspace "")
          quietOptions shufflingCompiler ∅).result ∧
      ((EmitRequest.plain (.ofString "/b.tsx") "let b").emit (uniformWorkspace "")
        quietOptions shufflingCompiler ∅).result.toOption.map
          (fun result => (result.output, result.sourceMap.map (·.sources),
            result.errors.map (·.rawMessage))) =
        some ("var b;\n", some ["/b.tsx"], ["error TS1: first", "error TS3: third"]) :=
  ⟨rfl, verdict_of_emit rfl .., by decide +kernel⟩

end EmitRequest

end ScriptLoader
