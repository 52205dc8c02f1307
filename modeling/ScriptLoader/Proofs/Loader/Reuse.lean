import ScriptLoader.Proofs.Loader.Identity
import ScriptLoader.Proofs.Options.Fingerprint

/-!
# Instances that are used with other options

The first request for a key that succeeds decides the options of its instance, and a later one
is given the instance whatever options it asks for. It is told so: the instance keeps the
fingerprint of the sources that it was made from through all work, and a request with other
sources is answered with a warning. `Reuse` says this of every instance in every history. Since
the text of the sources tells all of them, no option can change without the warning.
-/

namespace ScriptLoader.Registry

/-- The events of a request. -/
def Request.events (request : Request) (registry : Registry) : List Event :=
  (registry.resolve request.factory request.session request.sources).events

/-- An event that warns of the use of an instance with other options than its own. -/
structure WarnsOfReuse (key : String) (event : Event) : Prop where
  level_eq : event.level = .warn
  message_eq : event.message = "Instance " ++ key ++
    " reused with different loader options; set a distinct `instance` to separate them"

/-- The moment of a history in which the instance with a key was made. -/
structure Creation (acts : List Act) (key : String) where
  past : List Act
  request : Request
  rest : List Act
  made : Instance
  split : acts = past ++ .request request :: rest
  /-- No instance had the key before. -/
  absent : (run ∅ past).get? key = none
  key_eq : request.key (run ∅ past) = key
  given : request.answer (run ∅ past) = .ok made

/-- A request after a history is given an instance that was there before, and it is told if it
asks for other options than the instance was made with. -/
structure Reuse (acts : List Act) (request : Request) (inst : Instance) : Prop where
  /-- The instance was made in the history. -/
  created : Nonempty (Creation acts inst.key)
  /-- It is the instance that was made, with the work done on it since. -/
  inst_eq : ∀ creation : Creation acts inst.key, inst = creation.made.after creation.rest
  /-- Its options are those of the sources that it was made from. -/
  merged : ∀ creation : Creation acts inst.key,
    LoaderOptions.merge creation.request.sources inst.key = .ok inst.options
  /-- Nothing is told but the warning. -/
  events : request.events (run ∅ acts) = [] ∨
    ∃ event, request.events (run ∅ acts) = [event] ∧ WarnsOfReuse inst.key event
  /-- The warning is given exactly if the text of the sources differs from the text of those that
  the instance was made from. -/
  warned_iff : ∀ creation : Creation acts inst.key,
    creation.request.sources.DigestedApart request.sources →
    ((∃ event ∈ request.events (run ∅ acts), WarnsOfReuse inst.key event) ↔
      request.sources.toJson.compact ≠ creation.request.sources.toJson.compact)
  /-- So it is given whenever the sources would fail now, or lead to other options. -/
  warned_of_merge : ∀ creation : Creation acts inst.key,
    creation.request.sources.DigestedApart request.sources →
    LoaderOptions.merge request.sources inst.key ≠ .ok inst.options →
    ∃ event ∈ request.events (run ∅ acts), WarnsOfReuse inst.key event

/-- The warning is the one event of its level and its text. -/
theorem warnsOfReuse_iff {key : String} {event : Event} :
    WarnsOfReuse key event ↔ event = reuseWarning key := by
  have message_eq : (reuseWarning key).message = "Instance " ++ key ++
      " reused with different loader options; set a distinct `instance` to separate them" :=
    String.append_assoc ..
  constructor
  · intro warns
    obtain ⟨level, message⟩ := event
    obtain ⟨rfl, textEq⟩ := warns
    exact congrArg (Event.mk .warn) (textEq.trans message_eq.symm)
  · rintro rfl
    exact ⟨rfl, message_eq⟩

/-- A request for an instance that is there is warned if the fingerprints differ. -/
theorem events_of_held {registry : Registry} {request : Request} {inst : Instance}
    (held : registry.get? (request.key registry) = some inst) :
    request.events registry = if inst.fingerprint = request.sources.fingerprint then []
      else [reuseWarning (request.key registry)] := by
  have known : (registry.enter request.session).get?
      ((registry.enter request.session).keyOf request.session request.sources.label) = some inst :=
    (get?_enter ..).trans held
  simp only [Request.events, resolve, known]
  rfl

section Creations

variable {acts : List Act} {key : String}

/-- What is under a key was made at some moment. -/
theorem exists_creation {inst : Instance} (held : (run ∅ acts).get? key = some inst) :
    Nonempty (Creation acts key) := by
  obtain ⟨past, request, rest, made, split, absent, keyEq, given, _⟩ := made_of_held held
  exact ⟨⟨past, request, rest, made, split, absent, keyEq, given⟩⟩

namespace Creation

variable (creation : Creation acts key) {inst : Instance}
  (held : (run ∅ acts).get? key = some inst)

include held

/-- What is under the key is what was made, with the work done on it. -/
theorem eq_of_held : inst = creation.made.after creation.rest := by
  have keyEq := key_of_answer (keyed_run keyed_empty creation.past) creation.given
  have made : (run ∅ (creation.past ++ .request creation.request :: creation.rest)).get?
      creation.made.key = some (creation.made.after creation.rest) :=
    get?_run_of_answer creation.given
  rw [← creation.split, keyEq, creation.key_eq] at made
  exact Option.some.inj (held.symm.trans made)

/-- No work on an instance changes its options or its fingerprint. -/
theorem merge_and_fingerprint_eq :
    LoaderOptions.merge creation.request.sources key = .ok inst.options ∧
      inst.fingerprint = creation.request.sources.fingerprint := by
  have given := creation.given
  rw [answer_eq, creation.key_eq, creation.absent] at given
  obtain ⟨options, merged, _, madeEq⟩ := openOn_none_eq_ok given
  obtain rfl := creation.eq_of_held held
  rw [madeEq]
  exact ⟨merged, rfl⟩

end Creation

end Creations

/-- In every history, a request that is given an instance which was there before is warned exactly
if it asks for something else than the request that made the instance. -/
theorem reuse_of_history {acts : List Act} {request : Request} {inst : Instance}
    (given : request.answer (run ∅ acts) = .ok inst)
    (existed : (run ∅ acts).get? inst.key = some inst) : Reuse acts request inst := by
  have keyEq : inst.key = request.key (run ∅ acts) :=
    key_of_answer (keyed_run keyed_empty acts) given
  have eventsEq : request.events (run ∅ acts) =
      if inst.fingerprint = request.sources.fingerprint then [] else [reuseWarning inst.key] := by
    have held := existed
    rw [keyEq] at held ⊢
    exact events_of_held held
  have warned_iff (creation : Creation acts inst.key)
      (apart : creation.request.sources.DigestedApart request.sources) :
      (∃ event ∈ request.events (run ∅ acts), WarnsOfReuse inst.key event) ↔
        request.sources.toJson.compact ≠ creation.request.sources.toJson.compact := by
    simp only [warnsOfReuse_iff, exists_eq_right]
    rw [eventsEq, (creation.merge_and_fingerprint_eq existed).2, ne_comm, ne_eq,
      ← OptionSources.fingerprint_eq_iff apart]
    split
    · next same => simp [same]
    · next different => simp [different]
  refine ⟨exists_creation existed, fun creation => creation.eq_of_held existed,
    fun creation => (creation.merge_and_fingerprint_eq existed).1, ?_, warned_iff, ?_⟩
  · rw [eventsEq]
    split
    · exact .inl rfl
    · exact .inr ⟨_, rfl, warnsOfReuse_iff.mpr rfl⟩
  · intro creation apart different
    rw [warned_iff creation apart]
    intro same
    rw [OptionSources.compact_toJson_inj.mp same] at different
    exact different (creation.merge_and_fingerprint_eq existed).1

/-- A request with one option. -/
def transpileRequest (transpileOnly : Bool) : Request :=
  ⟨fun _ => .ok (), ⟨0⟩, ⟨RawOptions.empty.set "transpileOnly" (.bool transpileOnly), ∅⟩⟩

/-- An instance that only transpiles is used by a request that wants to check types, too. It goes on
to transpile only, and the request is told. -/
theorem reuse_of_transpileRequest :
    ∃ inst, (transpileRequest false).answer (run ∅ [.request (transpileRequest true)]) = .ok inst ∧
      inst.options.transpileOnly = true ∧
      ∃ event ∈ (transpileRequest false).events (run ∅ [.request (transpileRequest true)]),
        event.level = .warn ∧
        event.message = "Instance 0_default" ++
          " reused with different loader options; set a distinct `instance` to separate them" := by
  have first : ((transpileRequest true).answer ∅).toOption.map
      (fun inst => (inst.key, inst.options.transpileOnly)) = some ("0_default", true) := by
    decide +kernel
  have second : (LoaderOptions.merge (transpileRequest false).sources "0_default").toOption.map
      (·.transpileOnly) = some false := by
    decide +kernel
  have firstKey : (transpileRequest true).key ∅ = "0_default" := by decide +kernel
  have secondKey : (transpileRequest false).key (run ∅ [.request (transpileRequest true)]) =
      "0_default" := by decide +kernel
  have apart : (transpileRequest true).sources.DigestedApart (transpileRequest false).sources := by
    intro same
    exact absurd same (by decide +kernel)
  obtain ⟨made, given, readEq⟩ := exists_ok_of_map_toOption first
  obtain ⟨keyEq, transpiles⟩ := Prod.mk.inj readEq
  have held : (run ∅ [.request (transpileRequest true)]).get? made.key = some made :=
    get?_of_answer keyed_empty given
  have givenAgain : (transpileRequest false).answer (run ∅ [.request (transpileRequest true)]) =
      .ok made := by
    rw [answer_eq, secondKey, ← keyEq, held]
    rfl
  have different : LoaderOptions.merge (transpileRequest false).sources made.key ≠
      .ok made.options := by
    intro same
    rw [← keyEq, same] at second
    simp [Except.toOption, transpiles] at second
  obtain ⟨event, told, warns⟩ := (reuse_of_history givenAgain held).warned_of_merge
    ⟨[], transpileRequest true, [], made, rfl, get?_empty _, firstKey.trans keyEq.symm, given⟩
    apart different
  rw [keyEq] at warns
  exact ⟨made, givenAgain, transpiles, event, told, warns.level_eq, warns.message_eq⟩

end ScriptLoader.Registry
