import ScriptLoader.Proofs.Loader.Identity

/-!
# What a failed request leaves behind

A request first gives its session a number, then checks its options, then asks for a compiler, and
only at the end does an instance enter the registry. So a request that fails has numbered its
session and done nothing else, wherever it failed. Since numbers are kept, the key that it made up
stays the key of its session and label, and the next request for them goes on from there. `Refusal`
says this of every registry.
-/

namespace ScriptLoader.Registry

/-- A request for the instance with a key is refused for a cause: its options are bad, or no
compiler was made for them. What a factory says about its failure becomes a cause of the request,
together with the key, unless it is one already. -/
inductive Request.RefusedFor (request : Request) (key : String) : ConfigError → Prop where
  | options {cause : ConfigError}
      (refused : LoaderOptions.merge request.sources key = .error cause) :
      RefusedFor request key cause
  | compiler {options : LoaderOptions} {cause : ConfigError}
      (merged : LoaderOptions.merge request.sources key = .ok options)
      (failed : request.factory options = .error (.config cause)) :
      RefusedFor request key cause
  | wrapped {options : LoaderOptions} {failure : LoaderError}
      (merged : LoaderOptions.merge request.sources key = .ok options)
      (failed : request.factory options = .error failure) (other : failure.isConfig = false) :
      RefusedFor request key (.noCompiler key failure.message)

/-- A request is answered with an error: its instance was to be made and could not be, and the
registry is as before, but for the number of the session. -/
structure Refusal (registry : Registry) (request : Request) (error : LoaderError) : Prop where
  /-- The error is one of configuration, and it has one of three sources. -/
  refused : ∃ cause, error = .config cause ∧ request.RefusedFor (request.key registry) cause
  /-- There was no instance to be given. -/
  absent : registry.get? (request.key registry) = none
  /-- All instances are as before, with their options and their states, and there is no new one. -/
  instances_eq : (registry.apply (.request request)).instances = registry.instances
  /-- If the session has a number, nothing has changed at all. -/
  of_known : request.session ∈ registry.sessions → registry.apply (.request request) = registry
  /-- If it has none, it gets the next one, and nothing else has changed. -/
  of_new : request.session ∉ registry.sessions →
    registry.apply (.request request) =
        { registry with sessions := registry.sessions ++ [request.session] } ∧
      (registry.apply (.request request)).indexOf request.session = registry.sessions.length
  /-- Whatever happens afterwards, requests have the key of the failed one exactly if they name the
  same session and label. -/
  key_iff : ∀ (acts : List Act) (later : Request),
    later.key ((registry.apply (.request request)).run acts) = request.key registry ↔
      later.SamePair request
  /-- A later request for the same session and label that succeeds is given the instance under this
  key: the one that is there, if others made it, or else the one that it puts there. -/
  given_later : ∀ (acts : List Act) (later : Request) (inst : Instance),
    later.SamePair request →
    later.answer ((registry.apply (.request request)).run acts) = .ok inst →
    ((registry.apply (.request request)).run (acts ++ [.request later])).get?
        (request.key registry) = some inst ∧
      (∀ known, ((registry.apply (.request request)).run acts).get? (request.key registry) =
        some known → inst = known) ∧
      (registry.Keyed → inst.key = request.key registry)

section Failing

variable {registry : Registry} {request : Request} {error : LoaderError}

/-- A factory that fails makes a request fail with a cause. -/
theorem Request.refusedFor_of_factory {key : String} {options : LoaderOptions}
    {failure : LoaderError} (merged : LoaderOptions.merge request.sources key = .ok options)
    (failed : request.factory options = .error failure) :
    ∃ cause, factoryError key failure = .config cause ∧ request.RefusedFor key cause := by
  cases failure with
  | config cause => exact ⟨cause, rfl, .compiler merged failed⟩
  | _ => exact ⟨_, rfl, .wrapped merged failed rfl⟩

/-- Only a request for an instance that is not there can fail. -/
theorem refused_of_answer (failed : request.answer registry = .error error) :
    registry.get? (request.key registry) = none ∧
      ∃ cause, error = .config cause ∧ request.RefusedFor (request.key registry) cause := by
  rw [answer_eq] at failed
  cases held : registry.get? (request.key registry) with
  | some inst => simp [held, openOn] at failed
  | none =>
    refine ⟨rfl, ?_⟩
    simp only [held, openOn] at failed
    cases merged : LoaderOptions.merge request.sources (request.key registry) with
    | error cause =>
      simp only [merged, Except.error.injEq] at failed
      exact ⟨cause, failed.symm, .options merged⟩
    | ok options =>
      cases created : request.factory options with
      | error failure =>
        simp only [merged, created, Except.error.injEq] at failed
        subst failed
        exact Request.refusedFor_of_factory merged created
      | ok => simp [merged, created] at failed

/-- A request that fails does no more than number its session. -/
theorem apply_of_failed (failed : request.answer registry = .error error) :
    registry.apply (.request request) = registry.enter request.session := by
  simp only [Request.answer, apply, resolve] at failed ⊢
  -- The branches of a request that give an instance are no failures.
  split at failed
  · cases failed
  · split at failed
    · rfl
    · split at failed
      · rfl
      · cases failed

/-- A request that succeeds finds its instance under its key, or leaves it there. -/
theorem get?_apply_of_answer {inst : Instance} (given : request.answer registry = .ok inst) :
    (registry.apply (.request request)).get? (request.key registry) = some inst ∧
      ∀ known, registry.get? (request.key registry) = some known → inst = known := by
  constructor
  · rw [get?_apply_request, if_pos rfl, given]
    rfl
  · intro known held
    rw [answer_eq, held] at given
    exact (Except.ok.inj given).symm

end Failing

/-- Whatever a registry holds and whichever requests come later, a request that fails is refused
for a cause, changes nothing but the number of its session, and keeps its key for the session and
the label. -/
theorem refusal_of_answer {registry : Registry} {request : Request} {error : LoaderError}
    (failed : request.answer registry = .error error) : Refusal registry request error where
  refused := (refused_of_answer failed).2
  absent := (refused_of_answer failed).1
  instances_eq := by
    rw [apply_of_failed failed, enter]
    split <;> rfl
  of_known := by
    intro known
    rw [apply_of_failed failed, enter_of_mem known]
  of_new := by
    intro new
    rw [apply_of_failed failed, enter_of_notMem new]
    refine ⟨rfl, ?_⟩
    simp [indexOf, List.idxOf_append, new]
  key_iff := key_run_eq_iff registry request
  given_later := by
    intro acts later inst same given
    have keyEq := (key_run_eq_iff registry request acts later).mpr same
    obtain ⟨put, found⟩ := get?_apply_of_answer given
    rw [keyEq] at put found
    refine ⟨?_, found, ?_⟩
    · rw [run_append]
      exact put
    · intro keyed
      have keyedLater := keyed_run (keyed_apply keyed (.request request)) acts
      exact (key_of_answer keyedLater given).trans keyEq

/-- A request of a session for its default instance, with what the factory says to it. -/
def defaultRequest (session : Nat) (made : Except LoaderError Unit) : Request :=
  ⟨fun _ => made, ⟨session⟩, ⟨∅, ∅⟩⟩

/-- The compiler is missing at the first request of a session, and another session makes its
instance in between. The next request of the first session still makes the instance with the
number 0. -/
theorem refusal_of_missing_compiler :
    let failing := defaultRequest 7 (.error (.compiler "not found"))
    let error := LoaderError.config (.noCompiler "0_default" "Compiler error: not found")
    let between : List Act := [.request (defaultRequest 8 (.ok ()))]
    let later := defaultRequest 7 (.ok ())
    failing.answer ∅ = .error error ∧ Refusal ∅ failing error ∧
      ∃ inst, later.answer ((apply ∅ (.request failing)).run between) = .ok inst ∧
        ((apply ∅ (.request failing)).run (between ++ [.request later])).get? "0_default" =
          some inst := by
  intro failing error between later
  have failed : failing.answer ∅ = .error error := by with_unfolding_all rfl
  have keyEq : failing.key ∅ = "0_default" := by decide +kernel
  have succeeds : (later.answer ((apply ∅ (.request failing)).run between)).toOption.map
      Instance.key = some "0_default" := by
    decide +kernel
  have refusal : Refusal ∅ failing error := refusal_of_answer failed
  obtain ⟨inst, given, _⟩ := exists_ok_of_map_toOption succeeds
  obtain ⟨held, _⟩ := refusal.given_later between later inst ⟨rfl, rfl⟩ given
  rw [keyEq] at held
  exact ⟨failed, refusal, inst, given, held⟩

end ScriptLoader.Registry
