import Mathlib.Data.List.Induction
import ScriptLoader.Proofs.Loader.Build

/-!
# Instances leave no trace in each other

What a build does about one instance depends on the requests for this instance and on the watch
passes only. `Isolated` says so by comparing two runs: the whole history, and what is left of
it when all requests for other instances are taken out. A number says how many sessions came
before, so the second run starts from the numbers of the first.
-/

namespace ScriptLoader.Build

section TwoRuns

/-- Two builds agree about the instance with a key, and the second knows all sessions by their
numbers. -/
structure Agree (sessions : List BuildSession) (key : String) (first second : Build) : Prop where
  keyed_first : first.loader.registry.Keyed
  keyed_second : second.loader.registry.Keyed
  sessions_eq : second.sessions = sessions
  instance_eq : first.get? key = second.get? key
  service_eq : first.services key = second.services key

variable {sessions : List BuildSession} {session : BuildSession} {label : String}
  {first second : Build}

/-- A request that concerns an instance is answered in the same way and does the same to it in
builds that agree about it. -/
theorem Agree.apply_compile {compilation : Compilation}
    (agree : Agree sessions (keyIn sessions session label) first second)
    (concerned : (BuildCall.compile compilation).concerns session label = true)
    (numbers : (first.apply (.compile compilation)).sessions <+: sessions) :
    first.answer (keyIn sessions session label) (.compile compilation) =
        second.answer (keyIn sessions session label) (.compile compilation) ∧
      Agree sessions (keyIn sessions session label) (first.apply (.compile compilation))
        (second.apply (.compile compilation)) := by
  have numbered : compilation.session ∈ sessions := by
    rw [sessions_apply_compile] at numbers
    exact numbers.subset Registry.mem_sessions_enter
  have secondSessions : (second.apply (.compile compilation)).sessions = sessions := by
    rw [sessions_apply_compile, Registry.sessions_enter]
    change (if _ ∈ second.sessions then second.sessions else _) = _
    rw [agree.sessions_eq, if_pos numbered]
  have firstKey : first.keyFor compilation = keyIn sessions session label :=
    (keyFor_eq_iff numbers).mpr concerned
  have secondKey : second.keyFor compilation = keyIn sessions session label :=
    (keyFor_eq_iff (secondSessions ▸ List.prefix_rfl)).mpr concerned
  -- The key is the same, so both open the same instance and call the same compiler.
  have openedEq : first.opened compilation = second.opened compilation := by
    rw [opened_eq, opened_eq, firstKey, secondKey, agree.instance_eq]
  have serviceEq : first.serviceFor compilation = second.serviceFor compilation := by
    rw [serviceFor, serviceFor, firstKey, secondKey, agree.instance_eq, agree.service_eq]
  have firstKeyed := keyed_apply agree.keyed_first (.compile compilation)
  have secondKeyed := keyed_apply agree.keyed_second (.compile compilation)
  cases opening : second.opened compilation with
  | error cause =>
    obtain ⟨firstAnswer, firstGet, firstService⟩ :=
      compile_of_error (openedEq.trans opening) (keyIn sessions session label)
    obtain ⟨secondAnswer, secondGet, secondService⟩ :=
      compile_of_error opening (keyIn sessions session label)
    refine ⟨firstAnswer.trans secondAnswer.symm, firstKeyed, secondKeyed, secondSessions, ?_, ?_⟩
    · rw [firstGet, secondGet, agree.instance_eq]
    · rw [firstService, secondService, agree.service_eq]
  | ok inst =>
    obtain ⟨firstAnswer, firstGet, firstService⟩ :=
      compile_of_ok agree.keyed_first (openedEq.trans opening) (keyIn sessions session label)
    obtain ⟨secondAnswer, secondGet, secondService⟩ :=
      compile_of_ok agree.keyed_second opening (keyIn sessions session label)
    rw [serviceEq] at firstAnswer firstGet firstService
    rw [if_pos firstKey] at firstGet firstService
    rw [if_pos secondKey] at secondGet secondService
    exact ⟨firstAnswer.trans secondAnswer.symm, firstKeyed, secondKeyed, secondSessions,
      firstGet.trans secondGet.symm, firstService.trans secondService.symm⟩

/-- A watch pass reports the same of an instance and does the same to it in builds that agree
about it. -/
theorem Agree.apply_watch {key : String} (agree : Agree sessions key first second)
    (workspace : Workspace) (observed : List RawPath) :
    first.answer key (.watch workspace observed) =
        second.answer key (.watch workspace observed) ∧
      Agree sessions key (first.apply (.watch workspace observed))
        (second.apply (.watch workspace observed)) := by
  constructor
  · change Answer.watched _ = Answer.watched _
    rw [Loader.lookup_reports_watchRun, Loader.lookup_reports_watchRun]
    change Answer.watched ((first.get? key).bind _) = Answer.watched ((second.get? key).bind _)
    rw [agree.instance_eq]
  · refine ⟨keyed_apply agree.keyed_first _, keyed_apply agree.keyed_second _,
      agree.sessions_eq, ?_, agree.service_eq⟩
    rw [get?_apply_watch, get?_apply_watch, agree.instance_eq]

/-- A request that does not concern an instance leaves no trace in it. -/
theorem Agree.apply_other {call : BuildCall}
    (agree : Agree sessions (keyIn sessions session label) first second)
    (other : call.concerns session label = false)
    (numbers : (first.apply call).sessions <+: sessions) :
    Agree sessions (keyIn sessions session label) (first.apply call) second := by
  cases call with
  | watch workspace observed => cases other
  | compile compilation =>
    have otherKey : first.keyFor compilation ≠ keyIn sessions session label := by
      intro aimed
      rw [(keyFor_eq_iff numbers).mp aimed] at other
      cases other
    have unchanged :
        (first.apply (.compile compilation)).get? (keyIn sessions session label) =
            first.get? (keyIn sessions session label) ∧
          (first.apply (.compile compilation)).services (keyIn sessions session label) =
            first.services (keyIn sessions session label) := by
      cases opening : first.opened compilation with
      | error cause => exact (compile_of_error opening _).2
      | ok inst =>
        obtain ⟨_, getEq, serviceEq⟩ :=
          compile_of_ok agree.keyed_first opening (keyIn sessions session label)
        rw [if_neg otherKey] at getEq serviceEq
        exact ⟨getEq, serviceEq⟩
    exact ⟨keyed_apply agree.keyed_first _, agree.keyed_second, agree.sessions_eq,
      unchanged.1.trans agree.instance_eq, unchanged.2.trans agree.service_eq⟩

/-- Builds that agree about an instance still do so when one has gone through a history and
the other through what of it concerns the instance, and both have been given the same answers
about it. -/
theorem Agree.run (agree : Agree sessions (keyIn sessions session label) first second)
    {calls : List BuildCall} (numbers : (first.run calls).sessions <+: sessions) :
    first.answers (keyIn sessions session label) (·.concerns session label) calls =
        second.answers (keyIn sessions session label) (·.concerns session label)
          (calls.filter (·.concerns session label)) ∧
      Agree sessions (keyIn sessions session label) (first.run calls)
        (second.run (calls.filter (·.concerns session label))) := by
  induction calls generalizing first second with
  | nil => exact ⟨rfl, agree⟩
  | cons call calls ih =>
    -- Sessions are only ever added, so the numbers at the end hold at every step before.
    have numbersNow : (first.apply call).sessions <+: sessions :=
      (sessions_prefix_run calls).trans numbers
    cases concerned : call.concerns session label with
    | true =>
      have same : first.answer (keyIn sessions session label) call =
            second.answer (keyIn sessions session label) call ∧
          Agree sessions (keyIn sessions session label) (first.apply call)
            (second.apply call) := by
        cases call with
        | compile compilation => exact agree.apply_compile concerned numbersNow
        | watch workspace observed => exact agree.apply_watch workspace observed
      obtain ⟨answersEq, agreeAfter⟩ := ih same.2 numbers
      rw [List.filter_cons_of_pos concerned]
      refine ⟨?_, agreeAfter⟩
      simp only [answers, concerned, if_true, same.1, answersEq]
    | false =>
      obtain ⟨answersEq, agreeAfter⟩ :=
        ih (agree.apply_other concerned numbersNow) numbers
      rw [List.filter_cons_of_neg (by simp [concerned])]
      refine ⟨?_, agreeAfter⟩
      simpa [answers, concerned] using answersEq

end TwoRuns

section Start

@[simp] theorem get?_numbered (sessions : List BuildSession) (key : String) :
    (numbered sessions).get? key = none := by
  change (∅ : Std.ExtTreeMap String Instance compare)[key]? = none
  simp

/-- A build in which sessions are only numbered has no instance under a foreign key. -/
theorem keyed_numbered (sessions : List BuildSession) :
    (numbered sessions).loader.registry.Keyed := by
  intro key inst held
  change (numbered sessions).get? key = some inst at held
  simp at held

/-- A request that no compiler is made for. -/
def refused (workspace : Workspace) (cause : LoaderError) (sources : OptionSources)
    (request : EmitRequest) (session : BuildSession) : Compilation :=
  ⟨workspace, fun _ => .error cause, session, sources, request⟩

/-- Builds that know the same sessions, instances and compilers are the same. -/
theorem eq_of_get? {first second : Build} (sessionsEq : first.sessions = second.sessions)
    (getEq : ∀ key, first.get? key = second.get? key)
    (servicesEq : ∀ key, first.services key = second.services key) : first = second := by
  obtain ⟨⟨firstSessions, firstInstances⟩, firstServices⟩ := first
  obtain ⟨⟨secondSessions, secondInstances⟩, secondServices⟩ := second
  obtain rfl : firstSessions = secondSessions := sessionsEq
  obtain rfl : firstInstances = secondInstances := Std.ExtTreeMap.ext_getElem? getEq
  obtain rfl : firstServices = secondServices := funext servicesEq
  rfl

/-- A request that no compiler is made for numbers its session and does nothing else. -/
theorem apply_refused (workspace : Workspace) (cause : LoaderError) (sources : OptionSources)
    (request : EmitRequest) {sessions : List BuildSession} {session : BuildSession}
    (unknown : session ∉ sessions) :
    (numbered sessions).apply (.compile (refused workspace cause sources request session)) =
      numbered (sessions ++ [session]) := by
  cases opening : (numbered sessions).opened
      (refused workspace cause sources request session) with
  | error found =>
    have unchanged := compile_of_error opening
    refine eq_of_get? ?_ ?_ ?_
    · rw [sessions_apply_compile, Registry.sessions_enter]
      exact if_neg unknown
    · intro key
      rw [get?_numbered]
      exact (unchanged key).2.1.trans (get?_numbered sessions key)
    · intro key
      exact (unchanged key).2.2
  | ok inst =>
    rw [opened_eq, get?_numbered] at opening
    obtain ⟨options, _, created, _⟩ := Registry.openOn_none_eq_ok opening
    cases created

/-- Requests that no compiler is made for number their sessions, one after the other. -/
theorem run_refused (workspace : Workspace) (cause : LoaderError) (sources : OptionSources)
    (request : EmitRequest) {sessions : List BuildSession} (distinct : sessions.Nodup) :
    (∅ : Build).run (sessions.map (.compile <| refused workspace cause sources request ·)) =
      numbered sessions := by
  induction sessions using List.reverseRecOn with
  | nil => rfl
  | append_singleton front session ih =>
    obtain ⟨frontDistinct, _, apart⟩ := List.nodup_append.mp distinct
    have unknown : session ∉ front := by
      intro known
      exact apart session known session (by simp) rfl
    rw [List.map_append, run_append, ih frontDistinct]
    exact apply_refused workspace cause sources request unknown

end Start

section Isolation

/-- The sessions of a history, in the order of the numbers that they get. -/
def numbers (calls : List BuildCall) : List BuildSession :=
  ((∅ : Build).run calls).sessions

/-- The key of the instance of a session and a label in a history. -/
def keyAfter (calls : List BuildCall) (session : BuildSession) (label : String) : String :=
  keyIn (numbers calls) session label

/-- What is left of a history when all requests that do not concern an instance are taken
out. -/
def own (calls : List BuildCall) (session : BuildSession) (label : String) : List BuildCall :=
  calls.filter (·.concerns session label)

/-- No session has two numbers. -/
theorem nodup_numbers (calls : List BuildCall) : (numbers calls).Nodup := by
  have distinct : (∅ : Build).sessions.Nodup := List.nodup_nil
  exact nodup_sessions_run distinct calls

/-- The instance of a session and a label fares in a history as it does with what is left of
the history for it, when this starts with the sessions numbered the same way. -/
structure Isolated (session : BuildSession) (label : String) (calls : List BuildCall) :
    Prop where
  /-- A request finds the instance, or makes it, exactly if it names the session and label. -/
  keyFor_iff : ∀ past compilation rest, calls = past ++ .compile compilation :: rest →
    (((∅ : Build).run past).keyFor compilation = keyAfter calls session label ↔
      compilation.session = session ∧ compilation.sources.label = label)
  /-- A start with numbered sessions is what requests that no compiler is made for lead to. -/
  numbered_eq : ∀ workspace cause sources request,
    (∅ : Build).run
        ((numbers calls).map (.compile <| refused workspace cause sources request ·)) =
      numbered (numbers calls)
  /-- All sessions keep these numbers. -/
  sessions_eq : ((numbered (numbers calls)).run (own calls session label)).sessions =
    numbers calls
  /-- Requests for the instance have the same results, and watch passes report the same of
  it. -/
  answers_eq :
    (numbered (numbers calls)).answers (keyAfter calls session label)
        (·.concerns session label) (own calls session label) =
      (∅ : Build).answers (keyAfter calls session label) (·.concerns session label) calls
  /-- The instance is the same at the end: its options, and its state with all records, the
  version of the program, the modified paths and the graph. -/
  instance_eq :
    ((numbered (numbers calls)).run (own calls session label)).get?
        (keyAfter calls session label) =
      ((∅ : Build).run calls).get? (keyAfter calls session label)
  /-- So is its compiler. -/
  service_eq :
    ((numbered (numbers calls)).run (own calls session label)).services
        (keyAfter calls session label) =
      ((∅ : Build).run calls).services (keyAfter calls session label)

/-- No request for another instance, whether it succeeds or fails, leaves a trace in an
instance, and watch passes over other instances leave none either. -/
theorem isolated_of_history (session : BuildSession) (label : String)
    (calls : List BuildCall) : Isolated session label calls := by
  have start : Agree (numbers calls) (keyIn (numbers calls) session label) ∅
      (numbered (numbers calls)) :=
    { keyed_first := keyed_numbered []
      keyed_second := keyed_numbered _
      sessions_eq := rfl
      instance_eq := (get?_numbered [] _).trans (get?_numbered _ _).symm
      service_eq := rfl }
  obtain ⟨answersEq, agree⟩ := start.run (List.prefix_refl (numbers calls))
  refine
    { keyFor_iff := ?_
      numbered_eq := ?_
      sessions_eq := agree.sessions_eq
      answers_eq := answersEq.symm
      instance_eq := agree.instance_eq.symm
      service_eq := agree.service_eq.symm }
  · rintro past compilation rest rfl
    have known : (((∅ : Build).run past).apply (.compile compilation)).sessions <+:
        numbers (past ++ .compile compilation :: rest) := by
      rw [numbers, run_append]
      exact sessions_prefix_run rest
    rw [keyAfter, keyFor_eq_iff known]
    simp [BuildCall.concerns]
  · intro workspace cause sources request
    exact run_refused workspace cause sources request (nodup_numbers calls)

end Isolation

end ScriptLoader.Build
