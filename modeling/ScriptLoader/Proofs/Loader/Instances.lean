import ScriptLoader.Proofs.Loader.Opening

/-!
# What a call does to the instances

A call of the build tool opens at most one instance and works on its state, or works on the
states of all instances that are there. No call moves an instance to another key or changes
its options. The lemmas `compile_cases`, `get?_watchRun` and `get?_takeModified` say for each
kind of call what stands under every key afterwards.
-/

namespace ScriptLoader

namespace Registry

/-- The instance that a request works on: the one under its key, or a new one whose options
could be merged and for which there is a compiler. -/
inductive Opens (factory : CompilerFactory) (registry : Registry) (key : String)
    (sources : OptionSources) : Instance → Prop where
  | known {inst : Instance} (held : registry.get? key = some inst) :
      Opens factory registry key sources inst
  | made {options : LoaderOptions} (absent : registry.get? key = none)
      (merged : LoaderOptions.merge sources key = .ok options)
      (created : factory options = .ok ()) :
      Opens factory registry key sources ⟨options, sources.fingerprint, ∅⟩

/-- A request opens the instance that is there. -/
theorem Opens.eq_of_held {factory : CompilerFactory} {registry : Registry} {key : String}
    {sources : OptionSources} {opened inst : Instance}
    (opens : registry.Opens factory key sources opened)
    (held : registry.get? key = some inst) : opened = inst := by
  cases opens with
  | known known => exact Option.some.inj (known.symm.trans held)
  | made absent _ _ => simp [absent] at held

/-- What a request opens is under its key or is made. -/
theorem Opens.of_openOn {factory : CompilerFactory} {registry : Registry} {key : String}
    {sources : OptionSources} {inst : Instance}
    (opening : openOn factory key sources (registry.get? key) = .ok inst) :
    registry.Opens factory key sources inst := by
  cases held : registry.get? key with
  | some known =>
    rw [held] at opening
    cases opening
    exact .known held
  | none =>
    rw [held] at opening
    obtain ⟨options, merged, created, rfl⟩ := openOn_none_eq_ok opening
    exact .made held merged created

end Registry

/-- What a call does to an instance that it works on. -/
inductive Instance.Step (inst : Instance) : Instance → Prop where
  | compiled (workspace : Workspace) (compiler : Compiler) (request : EmitRequest) :
      Step inst { inst with
        state := (request.emit workspace inst.options compiler inst.state).state }
  | watched (workspace : Workspace) (observed : List RawPath) :
      Step inst { inst with state := (Loader.watchInstance workspace observed inst).state }
  | drained :
      Step inst { inst with state := { inst.state with files := inst.state.files.drain } }

/-- What a given call does to an instance that it works on. -/
inductive Instance.StepBy (inst : Instance) : LoaderCall → Instance → Prop where
  | compiled (workspace : Workspace) (factory : CompilerFactory) (compiler : Compiler)
      (session : BuildSession) (sources : OptionSources) (request : EmitRequest) :
      StepBy inst (.compile workspace factory compiler session sources request) { inst with
        state := (request.emit workspace inst.options compiler inst.state).state }
  | watched (workspace : Workspace) (observed : List RawPath) :
      StepBy inst (.watch workspace observed) { inst with
        state := (Loader.watchInstance workspace observed inst).state }
  | drained (key : String) :
      StepBy inst (.takeModified key) { inst with
        state := { inst.state with files := inst.state.files.drain } }

/-- What a given call does to an instance is one of the things that calls do. -/
theorem Instance.StepBy.step {inst next : Instance} {call : LoaderCall}
    (step : inst.StepBy call next) : inst.Step next := by
  cases step with
  | compiled workspace factory compiler session sources request => exact .compiled ..
  | watched workspace observed => exact .watched ..
  | drained key => exact .drained

/-- Only the state of an instance changes. -/
theorem Instance.Step.options_eq {inst next : Instance} (step : inst.Step next) :
    next.options = inst.options := by
  cases step <;> rfl

namespace Loader

/-- A history of calls may be cut anywhere. -/
theorem run_append (loader : Loader) (first second : List LoaderCall) :
    loader.run (first ++ second) = (loader.run first).run second :=
  List.foldl_append

variable {loader : Loader}

/-- A request either fails before any instance is touched, or works on the instance that it
opens and leaves every other one alone. -/
theorem compile_cases (keyed : loader.registry.Keyed) (workspace : Workspace)
    (factory : CompilerFactory) (compiler : Compiler) (session : BuildSession)
    (sources : OptionSources) (request : EmitRequest) :
    (∃ cause,
      (loader.compile workspace factory compiler session sources request).result =
        .error cause ∧
      ∀ key, (loader.compile workspace factory compiler session sources
        request).loader.registry.get? key = loader.registry.get? key) ∨
    ∃ inst, loader.registry.Opens factory (loader.registry.keyFor session sources) sources inst ∧
      (loader.compile workspace factory compiler session sources request).result =
        (request.emit workspace inst.options compiler inst.state).result ∧
      ∀ key, (loader.compile workspace factory compiler session sources
        request).loader.registry.get? key =
          if loader.registry.keyFor session sources = key then
            some { inst with
              state := (request.emit workspace inst.options compiler inst.state).state }
          else loader.registry.get? key := by
  cases opening : loader.registry.opened factory session sources with
  | error cause =>
    obtain ⟨resultEq, _, getEq⟩ := compile_of_error workspace compiler request opening
    exact .inl ⟨cause, resultEq, getEq⟩
  | ok inst =>
    obtain ⟨resultEq, _, getEq⟩ := compile_of_ok workspace compiler request keyed opening
    exact .inr ⟨inst, .of_openOn opening, resultEq, getEq⟩

/-- A watch pass works on every instance. -/
theorem get?_watchRun (workspace : Workspace) (observed : List RawPath) (key : String) :
    (loader.watchRun workspace observed).loader.registry.get? key =
      (loader.registry.get? key).map fun inst =>
        { inst with state := (watchInstance workspace observed inst).state } := by
  simp [watchRun, Registry.get?, Std.ExtTreeMap.getElem?_map]

/-- The report of an instance is given if its pass did something. -/
theorem mem_reports_watchRun {workspace : Workspace} {observed : List RawPath} {key : String}
    {report : WatchReport} :
    (key, report) ∈ (loader.watchRun workspace observed).reports ↔
      ∃ inst, loader.registry.get? key = some inst ∧
        report = (watchInstance workspace observed inst).report ∧ report.isEmpty = false := by
  simp only [watchRun, List.mem_map, List.mem_filter, Prod.exists, Prod.mk.injEq,
    Std.ExtTreeMap.mem_toList_iff_getElem?_eq_some, Registry.get?]
  constructor
  · rintro ⟨_, outcome, ⟨⟨name, inst, held, rfl, rfl⟩, worked⟩, rfl, rfl⟩
    exact ⟨inst, held, rfl, by simpa using worked⟩
  · rintro ⟨inst, held, rfl, worked⟩
    exact ⟨key, _, ⟨⟨key, inst, held, rfl, rfl⟩, by simpa using worked⟩, rfl, rfl⟩

/-- What a watch pass reports of an instance depends on this instance only. -/
theorem lookup_reports_watchRun (workspace : Workspace) (observed : List RawPath)
    (key : String) :
    (loader.watchRun workspace observed).reports.lookup key =
      (loader.registry.get? key).bind fun inst =>
        let report := (watchInstance workspace observed inst).report
        if report.isEmpty then none else some report := by
  cases found : (loader.watchRun workspace observed).reports.lookup key with
  | some report =>
    obtain ⟨inst, held, rfl, worked⟩ := mem_reports_watchRun.mp (Collection.mem_of_lookup found)
    simp [held, worked]
  | none =>
    cases held : loader.registry.get? key with
    | none => rfl
    | some inst =>
      cases idle : (watchInstance workspace observed inst).report.isEmpty with
      | true => simp [idle]
      | false =>
        have reported := mem_reports_watchRun.mpr ⟨inst, held, rfl, idle⟩
        have unreported := List.lookup_eq_none_iff.mp found _ reported
        simp at unreported

/-- Taking the modified paths of an instance works on this instance only. -/
theorem get?_takeModified (keyed : loader.registry.Keyed) (target key : String) :
    (loader.apply (.takeModified target)).registry.get? key =
      if target = key then (loader.registry.get? key).map fun inst =>
        { inst with state := { inst.state with files := inst.state.files.drain } }
      else loader.registry.get? key := by
  simp only [apply, takeModified?]
  cases held : loader.registry.get? target with
  | none =>
    by_cases aimed : target = key
    · subst aimed
      simp [held]
    · simp [aimed]
  | some inst =>
    simp only [Option.map_some, Option.getD_some,
      Registry.get?_put_state (keyed target inst held)]
    by_cases aimed : target = key
    · subst aimed
      simp [held]
    · simp [aimed]

/-- An instance that is there after a call was left alone by it, or is one that was there or
was made for the call, and that the call worked on. -/
theorem apply_cases (keyed : loader.registry.Keyed) {call : LoaderCall} {key : String}
    {next : Instance} (held : (loader.apply call).registry.get? key = some next) :
    loader.registry.get? key = some next ∨
      ∃ inst, (loader.registry.get? key = some inst ∨ inst.key = key ∧ inst.state = ∅) ∧
        inst.StepBy call next := by
  cases call with
  | compile workspace factory compiler session sources request =>
    rcases compile_cases keyed workspace factory compiler session sources request with
      ⟨_, _, same⟩ | ⟨inst, opens, _, after⟩
    · exact .inl ((same key).symm.trans held)
    · have held := (after key).symm.trans held
      by_cases aimed : loader.registry.keyFor session sources = key
      · rw [if_pos aimed, Option.some.injEq] at held
        subst held
        refine .inr ⟨inst, ?_, .compiled ..⟩
        cases opens with
        | known held => exact .inl (aimed ▸ held)
        | made _ merged _ => exact .inr ⟨(LoaderOptions.key_merge merged).trans aimed, rfl⟩
      · rw [if_neg aimed] at held
        exact .inl held
  | watch workspace observed =>
    obtain ⟨inst, known, rfl⟩ :=
      Option.map_eq_some_iff.mp ((get?_watchRun workspace observed key).symm.trans held)
    exact .inr ⟨inst, .inl known, .watched ..⟩
  | takeModified target =>
    have held := (get?_takeModified keyed target key).symm.trans held
    by_cases aimed : target = key
    · rw [if_pos aimed] at held
      obtain ⟨inst, known, rfl⟩ := Option.map_eq_some_iff.mp held
      exact .inr ⟨inst, .inl known, .drained target⟩
    · rw [if_neg aimed] at held
      exact .inl held

@[simp] theorem get?_empty (key : String) : (∅ : Loader).registry.get? key = none :=
  Registry.get?_empty key

/-- A loader that nothing was asked of keeps no instance under a foreign key. -/
theorem keyed_empty : (∅ : Loader).registry.Keyed :=
  Registry.keyed_empty

/-- No call puts an instance under a key that is not its own. -/
theorem keyed_apply (keyed : loader.registry.Keyed) (call : LoaderCall) :
    (loader.apply call).registry.Keyed := by
  intro key next held
  rcases apply_cases keyed held with same | ⟨inst, opened, step⟩
  · exact keyed key next same
  · have keyEq : inst.key = key := by
      rcases opened with known | ⟨keyEq, _⟩
      · exact keyed key inst known
      · exact keyEq
    rw [← keyEq, Instance.key, Instance.key, step.step.options_eq]

/-- No history of calls puts an instance under a key that is not its own. -/
theorem keyed_run (keyed : loader.registry.Keyed) (calls : List LoaderCall) :
    (loader.run calls).registry.Keyed := by
  induction calls generalizing loader with
  | nil => exact keyed
  | cons call calls ih => exact ih (keyed_apply keyed call)

/-- What holds of every instance when it is made, and is kept by calls of a kind that work on
it, holds of all instances after any history of such calls. -/
theorem run_invariant_of_calls {Holds : Instance → Prop} (Admitted : LoaderCall → Prop)
    (made : ∀ inst : Instance, inst.state = ∅ → Holds inst)
    (kept : ∀ call inst next, Admitted call → Holds inst → inst.StepBy call next → Holds next)
    (keyed : loader.registry.Keyed)
    (before : ∀ key inst, loader.registry.get? key = some inst → Holds inst)
    {calls : List LoaderCall} (admitted : ∀ call ∈ calls, Admitted call) {key : String}
    {inst : Instance} (held : (loader.run calls).registry.get? key = some inst) :
    Holds inst := by
  induction calls generalizing loader with
  | nil => exact before key inst held
  | cons call calls ih =>
    obtain ⟨headAdmitted, tailAdmitted⟩ := List.forall_mem_cons.mp admitted
    refine ih (keyed_apply keyed call) ?_ tailAdmitted held
    intro key next held
    rcases apply_cases keyed held with same | ⟨inst, known | ⟨_, empty⟩, step⟩
    · exact before key next same
    · exact kept call inst next headAdmitted (before key inst known) step
    · exact kept call inst next headAdmitted (made inst empty) step

/-- What holds of every instance when it is made, and is kept by every call that works on
it, holds of all instances after any history. -/
theorem run_invariant {Holds : Instance → Prop}
    (made : ∀ inst : Instance, inst.state = ∅ → Holds inst)
    (kept : ∀ inst next : Instance, Holds inst → inst.Step next → Holds next)
    (keyed : loader.registry.Keyed)
    (before : ∀ key inst, loader.registry.get? key = some inst → Holds inst)
    (calls : List LoaderCall) {key : String} {inst : Instance}
    (held : (loader.run calls).registry.get? key = some inst) : Holds inst := by
  refine run_invariant_of_calls (fun _ => True) made ?_ keyed before ?_ held
  · intro call inst next _ holds step
    exact kept inst next holds step.step
  · intro call _
    trivial

end Loader

end ScriptLoader
