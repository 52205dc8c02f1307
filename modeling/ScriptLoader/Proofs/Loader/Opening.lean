import ScriptLoader.Loader
import ScriptLoader.Proofs.Options.Merge

/-!
# What a request opens

A request works on the instance under its key. If there is none, it makes one, for which the
options of the request must be good and a compiler must be made. `openOn` is all that decides
which instance it is, so a request for one key does not depend on what is under another.
-/

namespace ScriptLoader

/-- Merged options carry the key that they were merged for. -/
theorem LoaderOptions.key_merge {sources : OptionSources} {key : String}
    {options : LoaderOptions} (merged : LoaderOptions.merge sources key = .ok options) :
    options.key = key :=
  key_applyAll merged

namespace Registry

/-- Every instance stands under its own key. -/
def Keyed (registry : Registry) : Prop :=
  ∀ key inst, registry.get? key = some inst → inst.key = key

@[simp] theorem get?_empty (key : String) : (∅ : Registry).get? key = none := by
  change (∅ : Std.ExtTreeMap String Instance compare)[key]? = none
  simp

/-- A registry without instances keeps none under a foreign key. -/
theorem keyed_empty : (∅ : Registry).Keyed := by
  intro key inst held
  simp at held

/-- The key under which a request finds its instance, or makes it. -/
def keyFor (registry : Registry) (session : BuildSession) (sources : OptionSources) : String :=
  (registry.enter session).keyOf session sources.label

@[simp] theorem get?_enter (registry : Registry) (session : BuildSession) (key : String) :
    (registry.enter session).get? key = registry.get? key := by
  unfold enter
  split <;> rfl

/-- An instance that is put is under its key, and nothing else changes. -/
theorem get?_put (registry : Registry) (inst : Instance) (key : String) :
    (registry.put inst).get? key = if inst.key = key then some inst else registry.get? key := by
  simp [put, get?, Std.ExtTreeMap.getElem?_insert]

/-- Work that leaves an instance in another state changes nothing under other keys. -/
theorem get?_put_state {registry : Registry} {inst : Instance} {target : String}
    (keyEq : inst.key = target) (state : InstanceState) (key : String) :
    (registry.put { inst with state }).get? key =
      if target = key then some { inst with state } else registry.get? key := by
  subst keyEq
  exact get?_put ..

section Opening

/-- What a request is given, by what is under its key. -/
def openOn (factory : CompilerFactory) (key : String) (sources : OptionSources) :
    Option Instance → Except LoaderError Instance
  | some inst => .ok inst
  | none =>
    match LoaderOptions.merge sources key with
    | .error cause => .error (.config cause)
    | .ok options =>
      match factory options with
      | .error cause => .error (factoryError key cause)
      | .ok () => .ok ⟨options, sources.fingerprint, ∅⟩

variable {factory : CompilerFactory} {key : String} {sources : OptionSources}

/-- An instance that is made has the options and the fingerprint of the request, and its state
is empty. -/
theorem openOn_none_eq_ok {inst : Instance}
    (given : openOn factory key sources none = .ok inst) :
    ∃ options, LoaderOptions.merge sources key = .ok options ∧ factory options = .ok () ∧
      inst = ⟨options, sources.fingerprint, ∅⟩ := by
  unfold openOn at given
  cases merged : LoaderOptions.merge sources key with
  | error cause => simp [merged] at given
  | ok options =>
    cases created : factory options with
    | error cause => simp [merged, created] at given
    | ok =>
      simp only [merged, created, Except.ok.injEq] at given
      exact ⟨options, rfl, created, given.symm⟩

/-- A request is given an instance with its key. -/
theorem key_of_openOn {known : Option Instance}
    (keyed : ∀ inst, known = some inst → inst.key = key) {inst : Instance}
    (given : openOn factory key sources known = .ok inst) : inst.key = key := by
  cases known with
  | some held =>
    cases given
    exact keyed inst rfl
  | none =>
    obtain ⟨options, merged, _, rfl⟩ := openOn_none_eq_ok given
    exact LoaderOptions.key_merge merged

/-- The instance that a request opens in a registry, or why there is none. -/
def opened (registry : Registry) (factory : CompilerFactory) (session : BuildSession)
    (sources : OptionSources) : Except LoaderError Instance :=
  openOn factory (registry.keyFor session sources) sources
    (registry.get? (registry.keyFor session sources))

/-- A request is given what it opens, and this is under its key from then on. -/
theorem resolve_eq (registry : Registry) (factory : CompilerFactory) (session : BuildSession)
    (sources : OptionSources) :
    (registry.resolve factory session sources).result =
        registry.opened factory session sources ∧
      (registry.resolve factory session sources).registry.sessions =
        (registry.enter session).sessions ∧
      ∀ key, (registry.resolve factory session sources).registry.get? key =
        if registry.keyFor session sources = key then
          (registry.opened factory session sources).toOption
        else registry.get? key := by
  have unchanged : ∀ key, registry.get? key =
      if (registry.enter session).keyOf session sources.label = key then
        registry.get? ((registry.enter session).keyOf session sources.label)
      else registry.get? key := by
    intro key
    split
    · next aimed => rw [aimed]
    · rfl
  unfold resolve opened openOn keyFor
  simp only [get?_enter]
  cases held : registry.get? ((registry.enter session).keyOf session sources.label) with
  | some inst =>
    rw [held] at unchanged
    exact ⟨rfl, rfl, fun key => (get?_enter ..).trans (unchanged key)⟩
  | none =>
    rw [held] at unchanged
    cases merged : LoaderOptions.merge sources
        ((registry.enter session).keyOf session sources.label) with
    | error cause => exact ⟨rfl, rfl, fun key => (get?_enter ..).trans (unchanged key)⟩
    | ok options =>
      dsimp only
      cases created : factory options with
      | error cause => exact ⟨rfl, rfl, fun key => (get?_enter ..).trans (unchanged key)⟩
      | ok =>
        refine ⟨rfl, rfl, fun key => ?_⟩
        rw [get?_put, get?_enter, Instance.key, LoaderOptions.key_merge merged]
        rfl

end Opening

end Registry

namespace Loader

section Requests

variable {loader : Loader} (workspace : Workspace) {factory : CompilerFactory}
  (compiler : Compiler) {session : BuildSession} {sources : OptionSources}
  (request : EmitRequest)

/-- A request enters its session, whatever becomes of it. -/
theorem sessions_compile :
    (loader.compile workspace factory compiler session sources
      request).loader.registry.sessions = (loader.registry.enter session).sessions := by
  rw [← (Registry.resolve_eq loader.registry factory session sources).2.1]
  simp only [compile]
  split <;> rfl

/-- A request that opens no instance touches none. -/
theorem compile_of_error {cause : LoaderError}
    (opening : loader.registry.opened factory session sources = .error cause) :
    let outcome := loader.compile workspace factory compiler session sources request
    outcome.result = .error cause ∧ outcome.call = none ∧
      ∀ key, outcome.loader.registry.get? key = loader.registry.get? key := by
  obtain ⟨resultEq, _, getEq⟩ := Registry.resolve_eq loader.registry factory session sources
  rw [opening] at resultEq
  simp only [compile, resultEq, true_and]
  intro key
  rw [getEq, opening]
  split
  · next aimed =>
    subst aimed
    cases held : loader.registry.get? (loader.registry.keyFor session sources) with
    | none => rfl
    | some inst => simp [held, Registry.opened, Registry.openOn] at opening
  · rfl

/-- A request works on the instance that it opens and on no other. -/
theorem compile_of_ok (keyed : loader.registry.Keyed) {inst : Instance}
    (opening : loader.registry.opened factory session sources = .ok inst) :
    let outcome := loader.compile workspace factory compiler session sources request
    let emit := request.emit workspace inst.options compiler inst.state
    outcome.result = emit.result ∧ outcome.call = some emit.call ∧
      ∀ key, outcome.loader.registry.get? key =
        if loader.registry.keyFor session sources = key then
          some { inst with state := emit.state }
        else loader.registry.get? key := by
  obtain ⟨resultEq, _, getEq⟩ := Registry.resolve_eq loader.registry factory session sources
  rw [opening] at resultEq
  have keyEq : inst.key = loader.registry.keyFor session sources :=
    Registry.key_of_openOn (fun held known => keyed _ held known) opening
  simp only [compile, resultEq, true_and]
  intro key
  rw [Registry.get?_put_state keyEq]
  split
  · rfl
  · next other => rw [getEq, if_neg other]

end Requests

end Loader

end ScriptLoader
