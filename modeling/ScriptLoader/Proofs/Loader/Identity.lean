import Mathlib.Data.List.Induction
import ScriptLoader.Proofs.Collection
import ScriptLoader.Proofs.Loader.Numbering

/-!
# Which instance a request is given

A registry is asked for instances, and whoever holds an instance works with it, which leaves
it in another state. The first request of a session and a label that succeeds makes their
instance; every later one is given this instance, with all work done on it and with the options
that it was made with. No other session and no other label is ever given it. `Identity` says
this of every history, whichever requests failed on the way.
-/

namespace ScriptLoader

namespace Registry

/-- A request for an instance, with the factory of its moment. -/
structure Request where
  factory : CompilerFactory
  session : BuildSession
  sources : OptionSources

namespace Request

/-- What a registry gives to a request. -/
def answer (request : Request) (registry : Registry) : Except LoaderError Instance :=
  (registry.resolve request.factory request.session request.sources).result

/-- The key under which a registry has or makes the instance of a request. -/
def key (request : Request) (registry : Registry) : String :=
  registry.keyFor request.session request.sources

/-- Two requests name the same session and the same label. -/
def SamePair (first second : Request) : Prop :=
  first.session = second.session ∧ first.sources.label = second.sources.label

end Request

/-- What happens to a registry and its instances. -/
inductive Act where
  /-- An instance is asked for. -/
  | request (request : Request)
  /-- Work with the instance that has a key, if there is one, leaves it in a state. -/
  | work (key : String) (state : InstanceState)

/-- The registry after an act. -/
def apply (registry : Registry) : Act → Registry
  | .request request =>
    (registry.resolve request.factory request.session request.sources).registry
  | .work key state =>
    match registry.get? key with
    | some inst => registry.put { inst with state }
    | none => registry

/-- The registry after a history of acts. -/
def run (registry : Registry) (acts : List Act) : Registry :=
  acts.foldl apply registry

/-- The sessions of the requests in a history, in their order. -/
def sessionsOf (acts : List Act) : List BuildSession :=
  acts.filterMap fun
    | .request request => some request.session
    | .work .. => none

/-- The number of a session when sessions come in an order, possibly repeated: how many others
came before it. -/
def numberIn (sessions : List BuildSession) (session : BuildSession) : Nat :=
  sessions.eraseDups.idxOf session

/-- The state of the instance with a key after an act. -/
def Act.onState (key : String) (state : InstanceState) : Act → InstanceState
  | .request _ => state
  | .work target next => if target = key then next else state

end Registry

/-- An instance after all work done on it in a history. -/
def Instance.after (inst : Instance) (acts : List Registry.Act) : Instance :=
  { inst with state := acts.foldl (Registry.Act.onState inst.key) inst.state }

namespace Registry

/-- A history may be cut anywhere. -/
theorem run_append (registry : Registry) (first second : List Act) :
    registry.run (first ++ second) = (registry.run first).run second :=
  List.foldl_append

section Steps

variable {registry : Registry}

/-- Work on an instance leaves it in another state and touches no other. -/
theorem get?_apply_work (keyed : registry.Keyed) (target key : String) (state : InstanceState) :
    (registry.apply (.work target state)).get? key =
      if target = key then (registry.get? key).map ({ · with state })
      else registry.get? key := by
  simp only [apply]
  cases held : registry.get? target with
  | none =>
    by_cases aimed : target = key
    · subst aimed
      simp [held]
    · simp [aimed]
  | some inst =>
    simp only [get?_put_state (keyed target inst held)]
    by_cases aimed : target = key
    · subst aimed
      simp [held]
    · simp [aimed]

/-- A request leaves what it is given under its key and touches no other. -/
theorem get?_apply_request (request : Request) (key : String) :
    (registry.apply (.request request)).get? key =
      if request.key registry = key then (request.answer registry).toOption
      else registry.get? key := by
  obtain ⟨resultEq, _, getEq⟩ :=
    resolve_eq registry request.factory request.session request.sources
  rw [Request.answer, resultEq]
  exact getEq key

/-- What a request is given depends on what is under its key, and on nothing else in the
registry. -/
theorem answer_eq (request : Request) :
    request.answer registry =
      openOn request.factory (request.key registry) request.sources
        (registry.get? (request.key registry)) :=
  (resolve_eq registry request.factory request.session request.sources).1

/-- A request is given an instance with its key. -/
theorem key_of_answer (keyed : registry.Keyed) {request : Request} {inst : Instance}
    (given : request.answer registry = .ok inst) : inst.key = request.key registry := by
  rw [answer_eq] at given
  exact key_of_openOn (fun held known => keyed _ held known) given

/-- No act puts an instance under a key that is not its own. -/
theorem keyed_apply (keyed : registry.Keyed) (act : Act) : (registry.apply act).Keyed := by
  intro key inst held
  cases act with
  | request request =>
    rw [get?_apply_request] at held
    split at held
    · next aimed =>
      cases given : request.answer registry with
      | error cause => simp [given, Except.toOption] at held
      | ok opened =>
        simp only [given, Except.toOption, Option.some.injEq] at held
        subst held
        exact (key_of_answer keyed given).trans aimed
    · exact keyed key inst held
  | work target state =>
    rw [get?_apply_work keyed] at held
    split at held
    · obtain ⟨known, knownHeld, rfl⟩ := Option.map_eq_some_iff.mp held
      exact keyed key known knownHeld
    · exact keyed key inst held

/-- No history puts an instance under a key that is not its own. -/
theorem keyed_run (keyed : registry.Keyed) (acts : List Act) : (registry.run acts).Keyed := by
  induction acts generalizing registry with
  | nil => exact keyed
  | cons act acts ih => exact ih (keyed_apply keyed act)

/-- An instance stays under its key, with the work that is done on it. -/
theorem get?_apply_of_held (keyed : registry.Keyed) {key : String} {inst : Instance}
    (held : registry.get? key = some inst) (act : Act) :
    (registry.apply act).get? key = some (inst.after [act]) := by
  have keyEq := keyed key inst held
  cases act with
  | request request =>
    rw [get?_apply_request]
    split
    · next aimed => rw [answer_eq, aimed, held]; rfl
    · exact held
  | work target state =>
    rw [get?_apply_work keyed, held]
    simp only [Instance.after, List.foldl_cons, List.foldl_nil, Act.onState, keyEq]
    split <;> rfl

/-- An instance stays under its key through every history, and only work changes it. -/
theorem get?_run_of_held (keyed : registry.Keyed) {key : String} {inst : Instance}
    (held : registry.get? key = some inst) (acts : List Act) :
    (registry.run acts).get? key = some (inst.after acts) := by
  induction acts generalizing registry inst with
  | nil => exact held
  | cons act acts ih => exact ih (keyed_apply keyed act) (get?_apply_of_held keyed held act)

/-- A request enters its session. -/
theorem sessions_apply_request (request : Request) :
    (registry.apply (.request request)).sessions =
      (registry.enter request.session).sessions :=
  (resolve_eq registry request.factory request.session request.sources).2.1

/-- Work enters no session. -/
theorem sessions_apply_work (key : String) (state : InstanceState) :
    (registry.apply (.work key state)).sessions = registry.sessions := by
  simp only [apply]
  split <;> rfl

/-- A session keeps its number. -/
theorem sessions_prefix_run (acts : List Act) :
    registry.sessions <+: (registry.run acts).sessions := by
  induction acts generalizing registry with
  | nil => exact List.prefix_rfl
  | cons act acts ih =>
    refine List.IsPrefix.trans ?_ ih
    cases act with
    | request request =>
      rw [sessions_apply_request]
      exact sessions_prefix_enter
    | work key state => exact (sessions_apply_work key state).symm ▸ List.prefix_rfl

end Steps

section Numbers

/-- A request is the last of the sessions mentioned so far. -/
theorem sessionsOf_concat_request (acts : List Act) (request : Request) :
    sessionsOf (acts ++ [.request request]) = sessionsOf acts ++ [request.session] :=
  List.filterMap_append

/-- Work mentions no session. -/
theorem sessionsOf_concat_work (acts : List Act) (key : String) (state : InstanceState) :
    sessionsOf (acts ++ [.work key state]) = sessionsOf acts := by
  simp [sessionsOf]

/-- Sessions are numbered in the order of their first requests, whatever these were given. -/
theorem sessions_run (acts : List Act) :
    (run ∅ acts).sessions = (sessionsOf acts).eraseDups := by
  induction acts using List.reverseRecOn with
  | nil => rfl
  | append_singleton acts act ih =>
    rw [run_append]
    cases act with
    | request request =>
      rw [sessionsOf_concat_request, Collection.eraseDups_concat, ← ih]
      have known_iff : request.session ∈ (run ∅ acts).sessions ↔
          request.session ∈ sessionsOf acts := by
        rw [ih, List.mem_eraseDups]
      rw [← if_congr known_iff rfl rfl, ← sessions_enter]
      exact sessions_apply_request request
    | work key state =>
      rw [sessionsOf_concat_work, ← ih]
      exact sessions_apply_work key state

/-- At the time of a request, the sessions are those mentioned so far, in the order of their first
mention. -/
theorem sessions_enter_run (acts : List Act) (request : Request) :
    ((run ∅ acts).enter request.session).sessions =
      (sessionsOf acts ++ [request.session]).eraseDups := by
  rw [← sessionsOf_concat_request, ← sessions_run, run_append]
  exact (sessions_apply_request request).symm

/-- After a request and whatever comes behind it, requests have its key if they name the same
session and label. -/
theorem key_run_eq_iff (registry : Registry) (first : Request) (acts : List Act)
    (second : Request) :
    second.key ((registry.apply (.request first)).run acts) = first.key registry ↔
      second.SamePair first := by
  refine keyFor_eq_iff (List.IsPrefix.trans ?_ sessions_prefix_enter) List.prefix_rfl
  rw [← sessions_apply_request first]
  exact sessions_prefix_run acts

/-- At two moments of a history, requests have the same key if they name the same session and
label. -/
theorem key_eq_iff (past between : List Act) (first second : Request) :
    second.key (run ∅ (past ++ .request first :: between)) = first.key (run ∅ past) ↔
      second.SamePair first := by
  rw [run_append]
  exact key_run_eq_iff (run ∅ past) first between second

end Numbers

/-- A request that comes after a history is the first of its session and label to succeed. -/
structure Request.FirstSuccess (past : List Act) (request : Request) : Prop where
  succeeds : ∃ inst, request.answer (run ∅ past) = .ok inst
  failedBefore : ∀ before earlier between, past = before ++ .request earlier :: between →
    earlier.SamePair request → ∃ cause, earlier.answer (run ∅ before) = .error cause

/-- Which instances the requests of a history are given. -/
structure Identity (acts : List Act) : Prop where
  /-- Sessions are numbered in the order of their first requests. -/
  sessions_eq : (run ∅ acts).sessions = (sessionsOf acts).eraseDups
  /-- The key of a request is made up of the number of its session and its label, whether it
  succeeds or not. -/
  key_eq : ∀ request : Request, request.key (run ∅ acts) =
    s!"{numberIn (sessionsOf acts ++ [request.session]) request.session}_{request.sources.label}"
  /-- Requests have the same key exactly if they name the same session and label, whatever
  characters there are in labels. -/
  key_iff : ∀ (past between : List Act) (first second : Request),
    acts = past ++ .request first :: between →
    (second.key (run ∅ acts) = first.key (run ∅ past) ↔ second.SamePair first)
  /-- An instance that is given has the key of the request. -/
  key_given : ∀ (request : Request) (inst : Instance), request.answer (run ∅ acts) = .ok inst →
    inst.key = request.key (run ∅ acts)
  /-- An instance that was given is under its key from then on. -/
  held : ∀ (past between : List Act) (request : Request) (inst : Instance),
    acts = past ++ .request request :: between → request.answer (run ∅ past) = .ok inst →
    (run ∅ acts).get? inst.key = some (inst.after between)
  /-- A later request is given the same instance, with all work done on it, exactly if it
  names the same session and label. -/
  given_again : ∀ (past between : List Act) (first second : Request) (inst later : Instance),
    acts = past ++ .request first :: between → first.answer (run ∅ past) = .ok inst →
    second.answer (run ∅ acts) = .ok later →
    (later = inst.after between ↔ second.SamePair first)
  /-- What is under a key has this key. -/
  keyed : ∀ (key : String) (inst : Instance), (run ∅ acts).get? key = some inst →
    inst.key = key
  /-- What is under a key has the options and the fingerprint of the first request for it that
  succeeded. -/
  first_decides : ∀ (key : String) (inst : Instance), (run ∅ acts).get? key = some inst →
    ∃ past first rest, acts = past ++ .request first :: rest ∧ first.FirstSuccess past ∧
      first.key (run ∅ past) = key ∧ LoaderOptions.merge first.sources key = .ok inst.options ∧
      inst.fingerprint = first.sources.fingerprint

section Making

/-- What a request is given is under its key from then on. -/
theorem get?_of_answer {registry : Registry} (keyed : registry.Keyed) {request : Request}
    {inst : Instance} (given : request.answer registry = .ok inst) :
    (registry.apply (.request request)).get? inst.key = some inst := by
  rw [get?_apply_request, if_pos (key_of_answer keyed given).symm, given]
  rfl

/-- What a request was given is under its key later on, with the work done on it since. -/
theorem get?_run_of_answer {past between : List Act} {request : Request} {inst : Instance}
    (given : request.answer (run ∅ past) = .ok inst) :
    (run ∅ (past ++ .request request :: between)).get? inst.key = some (inst.after between) := by
  have keyed := keyed_run keyed_empty past
  rw [run_append]
  exact get?_run_of_held (keyed_apply keyed _) (get?_of_answer keyed given) between

/-- Nothing is under a key before the first success of a request for it. -/
theorem failed_of_absent {past : List Act} {request : Request}
    (absent : (run ∅ past).get? (request.key (run ∅ past)) = none) {before between : List Act}
    {earlier : Request} (split : past = before ++ .request earlier :: between)
    (same : earlier.SamePair request) : ∃ cause, earlier.answer (run ∅ before) = .error cause := by
  cases given : earlier.answer (run ∅ before) with
  | error cause => exact ⟨cause, rfl⟩
  | ok inst =>
    subst split
    have keyEq := (key_eq_iff before between earlier request).mpr ⟨same.1.symm, same.2.symm⟩
    have held : (run ∅ (before ++ .request earlier :: between)).get? inst.key =
        some (inst.after between) := get?_run_of_answer given
    rw [key_of_answer (keyed_run keyed_empty before) given, ← keyEq, absent] at held
    cases held

/-- What is under a key was made by a request, when nothing was there yet. -/
theorem made_of_held {acts : List Act} {key : String} {inst : Instance}
    (held : (run ∅ acts).get? key = some inst) :
    ∃ past first rest made, acts = past ++ .request first :: rest ∧
      (run ∅ past).get? key = none ∧ first.key (run ∅ past) = key ∧
      first.answer (run ∅ past) = .ok made ∧ inst = made.after rest := by
  induction acts using List.reverseRecOn generalizing inst with
  | nil =>
    have absent : (run ∅ []).get? key = none := get?_empty key
    rw [absent] at held
    cases held
  | append_singleton acts act ih =>
    have keyed := keyed_run keyed_empty acts
    rw [run_append] at held
    cases before : (run ∅ acts).get? key with
    | some known =>
      obtain ⟨past, first, rest, made, rfl, absent, keyEq, given, rfl⟩ := ih before
      have same := (get?_apply_of_held keyed before act).symm.trans held
      refine ⟨past, first, rest ++ [act], made, by simp, absent, keyEq, given, ?_⟩
      rw [← Option.some.inj same]
      simp [Instance.after, List.foldl_append, Instance.key]
    | none =>
      change ((run ∅ acts).apply act).get? key = some inst at held
      cases act with
      | request request =>
        rw [get?_apply_request, before] at held
        split at held
        · next aimed =>
          cases given : request.answer (run ∅ acts) with
          | error cause => simp [given, Except.toOption] at held
          | ok made =>
            simp only [given, Except.toOption, Option.some.injEq] at held
            exact ⟨acts, request, [], made, rfl, before, aimed, given, held.symm⟩
        · cases held
      | work target state => simp [get?_apply_work keyed, before] at held

end Making

/-- Every history of requests, whether they succeed or fail, and of work on the instances that
they are given keeps to the identity of instances. -/
theorem identity_of_history (acts : List Act) : Identity acts where
  sessions_eq := sessions_run acts
  key_eq := by
    intro request
    rw [Request.key, keyFor_eq List.prefix_rfl, sessions_enter_run]
    rfl
  key_iff := by
    rintro past between first second rfl
    exact key_eq_iff past between first second
  key_given := by
    intro request inst given
    exact key_of_answer (keyed_run keyed_empty acts) given
  held := by
    rintro past between request inst rfl given
    exact get?_run_of_answer given
  given_again := by
    rintro past between first second inst later rfl given givenLater
    have keyed := keyed_run keyed_empty (past ++ .request first :: between)
    have keyEq : later.key = inst.key ↔ second.SamePair first := by
      rw [key_of_answer keyed givenLater, key_of_answer (keyed_run keyed_empty past) given]
      exact key_eq_iff past between first second
    constructor
    · rintro rfl
      exact keyEq.mp rfl
    · intro same
      have opened := keyEq.mpr same
      rw [key_of_answer keyed givenLater] at opened
      rw [answer_eq, opened, get?_run_of_answer given] at givenLater
      exact (Except.ok.inj givenLater).symm
  keyed := keyed_run keyed_empty acts
  first_decides := by
    intro key inst held
    obtain ⟨past, first, rest, made, split, absent, rfl, given, rfl⟩ := made_of_held held
    refine ⟨past, first, rest, split, ⟨⟨made, given⟩, ?_⟩, rfl, ?_⟩
    · intro before earlier between
      exact failed_of_absent absent
    · rw [answer_eq, absent] at given
      obtain ⟨options, merged, _, rfl⟩ := openOn_none_eq_ok given
      exact ⟨merged, rfl⟩

end Registry

end ScriptLoader
