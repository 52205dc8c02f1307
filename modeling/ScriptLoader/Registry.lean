import ScriptLoader.Compiler.Service
import ScriptLoader.Options.Merge

/-!
# The registry of instances

An instance belongs to a session of the build tool and a label. Sessions are numbered in the
order in which they first appear, and the number and the label make up the key of the
instance. The first request for a key decides the options of its instance for good.
-/

namespace ScriptLoader

/-- One run of the build tool's own machinery. -/
structure BuildSession where
  id : Nat
  deriving DecidableEq, Repr

/-- A compilation context of its own. -/
structure Instance where
  options : LoaderOptions
  /-- The digest of the sources that the options came from. -/
  fingerprint : String
  state : InstanceState

/-- The key of an instance. -/
def Instance.key (inst : Instance) : String :=
  inst.options.key

/-- The sessions in the order of their appearance, and the instances by key. -/
structure Registry where
  sessions : List BuildSession
  instances : Std.ExtTreeMap String Instance compare

/-- The registry after a request for an instance, the instance or why there is none, whether
a compiler was asked for, and the events on the way. -/
structure Resolution where
  registry : Registry
  result : Except LoaderError Instance
  asked : Bool
  events : List Event

namespace Registry

/-- The registry that knows no session. -/
def empty : Registry :=
  ⟨[], ∅⟩

instance : EmptyCollection Registry := ⟨empty⟩

/-- The instance with a key. -/
def get? (registry : Registry) (key : String) : Option Instance :=
  registry.instances[key]?

/-- The keys of all instances, in order. -/
def keys (registry : Registry) : List String :=
  registry.instances.keys

/-- The number of instances. -/
def size (registry : Registry) : Nat :=
  registry.instances.size

/-- The registry in which a session has a number. -/
def enter (registry : Registry) (session : BuildSession) : Registry :=
  if registry.sessions.contains session then registry
  else { registry with sessions := registry.sessions ++ [session] }

/-- The number of a session; a new session takes the next one. -/
def indexOf (registry : Registry) (session : BuildSession) : Nat :=
  registry.sessions.idxOf session

/-- The key of the instance that a session means by a label. -/
def keyOf (registry : Registry) (session : BuildSession) (label : String) : String :=
  s!"{registry.indexOf session}_{label}"

/-- Puts an instance under its key. -/
def put (registry : Registry) (inst : Instance) : Registry :=
  { registry with instances := registry.instances.insert inst.key inst }

/-- The error of a request whose compiler could not be made. -/
def factoryError (key : String) : LoaderError → LoaderError
  | .config cause => .config cause
  | other => .config (.noCompiler key other.message)

/-- The warning about an instance that is used with other options than its own. -/
def reuseWarning (key : String) : Event :=
  .warn ("Instance " ++ key ++ " reused with different loader options; " ++
    "set a distinct `instance` to separate them")

/-- The event of a new instance. -/
def creationEvent (options : LoaderOptions) : Event :=
  let message := s!"Created instance {options.key} using {options.compiler}"
  if options.logsInfo then .info message else .debug message

/-- Finds or makes the instance that a session means. -/
def resolve (factory : CompilerFactory) (registry : Registry) (session : BuildSession)
    (sources : OptionSources) : Resolution :=
  let registry := registry.enter session
  let key := registry.keyOf session sources.label
  let fingerprint := sources.fingerprint
  match registry.get? key with
  | some inst =>
    ⟨registry, .ok inst, false,
      if inst.fingerprint = fingerprint then [] else [reuseWarning key]⟩
  | none =>
    let events := LoaderOptions.mergeEvents sources key
    match LoaderOptions.merge sources key with
    | .error cause => ⟨registry, .error (.config cause), false, events⟩
    | .ok options =>
      match factory options with
      | .error cause => ⟨registry, .error (factoryError key cause), true, events⟩
      | .ok () =>
        let inst : Instance := ⟨options, fingerprint, ∅⟩
        ⟨registry.put inst, .ok inst, true, events ++ [creationEvent options]⟩

end Registry

end ScriptLoader
