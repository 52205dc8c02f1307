import ScriptLoader.Proofs.Loader.Numbering

/-!
# Loaders with the compilers of their instances

A compiler is made for one instance and may remember how it was called. `Service` is such a
compiler: what it does after any calls, and nothing else has a say in it. A `Build` is a loader
with the compilers of its instances. Its calls say how compilers are made, but not what a
compiler does later on.
-/

namespace ScriptLoader

/-- A compiler with a memory of its own: what it does, by the calls that it had. -/
structure Service where
  after : List CompilerCall → Compiler

namespace Service

/-- What a compiler does when it is called next. -/
def next (service : Service) : Compiler :=
  service.after []

/-- A compiler that remembers one more call. -/
def called (service : Service) (call : CompilerCall) : Service :=
  ⟨fun calls => service.after (call :: calls)⟩

/-- What stands in the place of a compiler where there is no instance. -/
def absent : Service :=
  ⟨fun _ => ⟨fun path => .done (.error (.noOutput path)),
    fun request => .error (.noOutput request.fileName)⟩⟩

end Service

/-- Makes the compiler of a new instance, or says why there is none. -/
abbrev ServiceFactory := LoaderOptions → Except LoaderError Service

/-- Whether a factory makes a compiler. -/
def ServiceFactory.outcome (factory : ServiceFactory) : CompilerFactory :=
  fun options => (factory options).map fun _ => ()

/-- A request to compile a file with all that its outcome depends on. -/
structure Compilation where
  workspace : Workspace
  factory : ServiceFactory
  session : BuildSession
  sources : OptionSources
  request : EmitRequest

/-- A call of the build tool. -/
inductive BuildCall where
  | compile (compilation : Compilation)
  | watch (workspace : Workspace) (observed : List RawPath)

/-- What a call gives back about one instance. -/
inductive Answer where
  | compiled (result : Except LoaderError EmitResult)
  /-- What a watch pass reports of the instance, if it did anything. -/
  | watched (report : Option WatchReport)

/-- Whether a call concerns the instance of a session and a label: every watch pass does. -/
def BuildCall.concerns (session : BuildSession) (label : String) : BuildCall → Bool
  | .compile compilation => compilation.session = session ∧ compilation.sources.label = label
  | .watch .. => true

/-- A loader, and the compilers of its instances by key. -/
structure Build where
  loader : Loader
  services : String → Service

/-- The compiler of a request: that of the instance, or the one that is made for a new one. -/
def Compilation.service (compilation : Compilation) (key : String) (held : Service) :
    Option Instance → Service
  | some _ => held
  | none =>
    match LoaderOptions.merge compilation.sources key with
    | .error _ => .absent
    | .ok options =>
      match compilation.factory options with
      | .error _ => .absent
      | .ok service => service

namespace Build

/-- The key of the instance of a session and a label where sessions are numbered by their
places. -/
def keyIn (sessions : List BuildSession) (session : BuildSession) (label : String) : String :=
  s!"{sessions.idxOf session}_{label}"

/-- The build in which some sessions have their numbers and nothing else has happened. -/
def numbered (sessions : List BuildSession) : Build :=
  ⟨⟨⟨sessions, ∅⟩⟩, fun _ => .absent⟩

instance : EmptyCollection Build := ⟨numbered []⟩

/-- The instance with a key. -/
def get? (build : Build) (key : String) : Option Instance :=
  build.loader.registry.get? key

/-- The sessions in the order of their numbers. -/
def sessions (build : Build) : List BuildSession :=
  build.loader.registry.sessions

/-- The key under which a request finds its instance, or makes it. -/
def keyFor (build : Build) (compilation : Compilation) : String :=
  build.loader.registry.keyFor compilation.session compilation.sources

/-- The compiler that a request works with. -/
def serviceFor (build : Build) (compilation : Compilation) : Service :=
  compilation.service (build.keyFor compilation) (build.services (build.keyFor compilation))
    (build.get? (build.keyFor compilation))

/-- The outcome of a request. -/
def compile (build : Build) (compilation : Compilation) : CompileOutcome :=
  build.loader.compile compilation.workspace compilation.factory.outcome
    (build.serviceFor compilation).next compilation.session compilation.sources
    compilation.request

/-- The build after a call. A compiler remembers how it was called. -/
def apply (build : Build) : BuildCall → Build
  | .compile compilation =>
    let outcome := build.compile compilation
    { loader := outcome.loader
      services :=
        match outcome.call with
        | some call => fun key =>
          if build.keyFor compilation = key then (build.serviceFor compilation).called call
          else build.services key
        | none => build.services }
  | .watch workspace observed =>
    { build with loader := (build.loader.watchRun workspace observed).loader }

/-- What a call of the build tool is for the loader of a build. -/
def loaderCall (build : Build) : BuildCall → LoaderCall
  | .compile compilation =>
    .compile compilation.workspace compilation.factory.outcome
      (build.serviceFor compilation).next compilation.session compilation.sources
      compilation.request
  | .watch workspace observed => .watch workspace observed

/-- The build after a history of calls. -/
def run (build : Build) (calls : List BuildCall) : Build :=
  calls.foldl apply build

/-- What a call gives back about the instance with a key. -/
def answer (key : String) (build : Build) : BuildCall → Answer
  | .compile compilation => .compiled (build.compile compilation).result
  | .watch workspace observed =>
    .watched ((build.loader.watchRun workspace observed).reports.lookup key)

/-- What those calls of a history that concern an instance give back about it. -/
def answers (key : String) (concerned : BuildCall → Bool) (build : Build) :
    List BuildCall → List Answer
  | [] => []
  | call :: calls =>
    if concerned call then build.answer key call :: answers key concerned (build.apply call) calls
    else answers key concerned (build.apply call) calls

/-- The calls of a build may be cut anywhere. -/
theorem run_append (build : Build) (first second : List BuildCall) :
    build.run (first ++ second) = (build.run first).run second :=
  List.foldl_append

section Sessions

variable {build : Build}

/-- A compilation enters its session. -/
theorem sessions_apply_compile (compilation : Compilation) :
    (build.apply (.compile compilation)).sessions =
      (build.loader.registry.enter compilation.session).sessions :=
  Loader.sessions_compile ..

/-- A session keeps its number. -/
theorem sessions_prefix_apply (call : BuildCall) :
    build.sessions <+: (build.apply call).sessions := by
  cases call with
  | compile compilation =>
    rw [sessions_apply_compile]
    exact Registry.sessions_prefix_enter
  | watch workspace observed => exact List.prefix_rfl

/-- Sessions keep their places in the list from then on. -/
theorem sessions_prefix_run (calls : List BuildCall) :
    build.sessions <+: (build.run calls).sessions := by
  induction calls generalizing build with
  | nil => exact List.prefix_rfl
  | cons call calls ih => exact (sessions_prefix_apply call).trans ih

/-- No call enters a session twice. -/
theorem nodup_sessions_apply (distinct : build.sessions.Nodup) (call : BuildCall) :
    (build.apply call).sessions.Nodup := by
  cases call with
  | compile compilation =>
    rw [sessions_apply_compile, Registry.sessions_enter]
    split
    · exact distinct
    · next unknown =>
      have apart : ∀ session ∈ build.loader.registry.sessions,
          session ≠ compilation.session := by
        rintro session known rfl
        exact unknown known
      exact List.nodup_append.mpr ⟨distinct, by simp, by simpa using apart⟩
  | watch workspace observed => exact distinct

/-- No history enters a session twice. -/
theorem nodup_sessions_run (distinct : build.sessions.Nodup) (calls : List BuildCall) :
    (build.run calls).sessions.Nodup := by
  induction calls generalizing build with
  | nil => exact distinct
  | cons call calls ih => exact ih (nodup_sessions_apply distinct call)

/-- The key of a request is that of a session and a label if the request concerns them. -/
theorem keyFor_eq_iff {sessions : List BuildSession} {session : BuildSession} {label : String}
    {compilation : Compilation}
    (numbers : (build.apply (.compile compilation)).sessions <+: sessions) :
    build.keyFor compilation = keyIn sessions session label ↔
      (BuildCall.compile compilation).concerns session label = true := by
  rw [sessions_apply_compile] at numbers
  rw [keyFor, keyIn, Registry.keyFor_eq_text_iff numbers]
  simp [BuildCall.concerns]

end Sessions

section Steps

variable {build : Build}

/-- The instance that a request opens, or why there is none. -/
def opened (build : Build) (compilation : Compilation) : Except LoaderError Instance :=
  build.loader.registry.opened compilation.factory.outcome compilation.session
    compilation.sources

/-- What a compilation opens depends on what is under its key, and on nothing else in the
registry. -/
theorem opened_eq (compilation : Compilation) :
    build.opened compilation =
      Registry.openOn compilation.factory.outcome (build.keyFor compilation)
        compilation.sources (build.get? (build.keyFor compilation)) :=
  rfl

/-- A build does to its loader what the loader does by itself. -/
theorem loader_apply (call : BuildCall) :
    (build.apply call).loader = build.loader.apply (build.loaderCall call) := by
  cases call <;> rfl

/-- No call of a build puts an instance under a key that is not its own. -/
theorem keyed_apply (keyed : build.loader.registry.Keyed) (call : BuildCall) :
    (build.apply call).loader.registry.Keyed := by
  rw [loader_apply]
  exact Loader.keyed_apply keyed _

/-- A request that opens no instance leaves all instances and compilers alone. -/
theorem compile_of_error {compilation : Compilation} {cause : LoaderError}
    (opening : build.opened compilation = .error cause) (key : String) :
    build.answer key (.compile compilation) = .compiled (.error cause) ∧
      (build.apply (.compile compilation)).get? key = build.get? key ∧
      (build.apply (.compile compilation)).services key = build.services key := by
  obtain ⟨resultEq, callEq, getEq⟩ :=
    Loader.compile_of_error compilation.workspace (build.serviceFor compilation).next
      compilation.request opening
  refine ⟨congrArg Answer.compiled resultEq, getEq key, ?_⟩
  change (build.compile compilation).call = none at callEq
  simp only [apply, callEq]

/-- A request works on the instance that it opens and with the compiler of this instance, and
leaves all others alone. -/
theorem compile_of_ok (keyed : build.loader.registry.Keyed) {compilation : Compilation}
    {inst : Instance} (opening : build.opened compilation = .ok inst) (key : String) :
    let emit := compilation.request.emit compilation.workspace inst.options
      (build.serviceFor compilation).next inst.state
    build.answer key (.compile compilation) = .compiled emit.result ∧
      (build.apply (.compile compilation)).get? key =
        (if build.keyFor compilation = key then some { inst with state := emit.state }
        else build.get? key) ∧
      (build.apply (.compile compilation)).services key =
        if build.keyFor compilation = key then (build.serviceFor compilation).called emit.call
        else build.services key := by
  obtain ⟨resultEq, callEq, getEq⟩ :=
    Loader.compile_of_ok compilation.workspace (build.serviceFor compilation).next
      compilation.request keyed opening
  refine ⟨congrArg Answer.compiled resultEq, getEq key, ?_⟩
  change (build.compile compilation).call = some _ at callEq
  simp only [apply, callEq]

/-- A watch pass of a build works on every instance. -/
theorem get?_apply_watch (workspace : Workspace) (observed : List RawPath) (key : String) :
    (build.apply (.watch workspace observed)).get? key =
      (build.get? key).map fun inst =>
        { inst with state := (Loader.watchInstance workspace observed inst).state } :=
  Loader.get?_watchRun workspace observed key

end Steps

end Build

end ScriptLoader
