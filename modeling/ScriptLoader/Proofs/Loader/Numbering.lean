import Mathlib.Data.List.Basic
import ScriptLoader.Proofs.Loader.Instances
import ScriptLoader.Proofs.Text.Numeral

/-!
# Numbers of sessions and keys of instances

A session gets its number with its first request and keeps it, since sessions are only ever
added behind those that are known. The number and a label can be read off the key that they
make up, whatever the label is. So keys of different pairs differ, also if they were made up at
different moments: it is enough that one list of sessions has both numbers.
-/

namespace ScriptLoader.Registry

variable {registry : Registry} {session : BuildSession}

/-- A session that is known changes nothing. -/
theorem enter_of_mem (known : session ∈ registry.sessions) : registry.enter session = registry := by
  simp [enter, known]

/-- A new session takes the next number. -/
theorem enter_of_notMem (new : session ∉ registry.sessions) :
    registry.enter session = { registry with sessions := registry.sessions ++ [session] } := by
  simp [enter, new]

/-- A session that enters comes last, unless it has a number. -/
theorem sessions_enter (registry : Registry) (session : BuildSession) :
    (registry.enter session).sessions =
      if session ∈ registry.sessions then registry.sessions
      else registry.sessions ++ [session] := by
  split
  · next known => rw [enter_of_mem known]
  · next new => rw [enter_of_notMem new]

/-- A session that entered is among the sessions. -/
theorem mem_sessions_enter : session ∈ (registry.enter session).sessions := by
  rw [sessions_enter]
  split
  · next known => exact known
  · simp

/-- When a session enters, the others keep their places. -/
theorem sessions_prefix_enter : registry.sessions <+: (registry.enter session).sessions := by
  rw [sessions_enter]
  split
  · exact List.prefix_rfl
  · exact List.prefix_append ..

/-- The key of a request shows the number of its session in any later list of sessions. -/
theorem keyFor_eq {sources : OptionSources} {sessions : List BuildSession}
    (starts : (registry.enter session).sessions <+: sessions) :
    registry.keyFor session sources = s!"{sessions.idxOf session}_{sources.label}" := by
  rw [← starts.idxOf_eq_of_mem mem_sessions_enter]
  rfl

/-- A key tells the number and the label that it was made up of. -/
theorem number_label_inj {number otherNumber : Nat} {label otherLabel : String}
    (same : s!"{number}_{label}" = s!"{otherNumber}_{otherLabel}") :
    number = otherNumber ∧ label = otherLabel := by
  have notDigit : '_'.isDigit = false := by decide
  exact repr_append_inj notDigit same

/-- The key of a request is that of a session and a label if the request names them. -/
theorem keyFor_eq_text_iff {sources : OptionSources} {sessions : List BuildSession}
    {other : BuildSession} {label : String}
    (starts : (registry.enter session).sessions <+: sessions) :
    registry.keyFor session sources = s!"{sessions.idxOf other}_{label}" ↔
      session = other ∧ sources.label = label := by
  rw [keyFor_eq starts]
  constructor
  · intro same
    obtain ⟨numbersEq, labelsEq⟩ := number_label_inj same
    have among : session ∈ sessions := starts.subset mem_sessions_enter
    exact ⟨(List.idxOf_inj among).mp numbersEq, labelsEq⟩
  · rintro ⟨rfl, labelsEq⟩
    rw [labelsEq]

/-- The keys of two requests are the same if they name the same session and label. -/
theorem keyFor_eq_iff {other : Registry} {otherSession : BuildSession}
    {sources otherSources : OptionSources} {sessions : List BuildSession}
    (starts : (registry.enter session).sessions <+: sessions)
    (otherStarts : (other.enter otherSession).sessions <+: sessions) :
    other.keyFor otherSession otherSources = registry.keyFor session sources ↔
      otherSession = session ∧ otherSources.label = sources.label := by
  rw [keyFor_eq starts]
  exact keyFor_eq_text_iff otherStarts

end ScriptLoader.Registry
