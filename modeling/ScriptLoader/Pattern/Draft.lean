import ScriptLoader.Pattern.Basic

/-!
# Drafts of automata

An automaton reads the bytes of a text. It is written state by state; a state is known by
how many were written before it. The room that the states take is limited: what would exceed
the limit is not written, and the draft fails.
-/

namespace ScriptLoader.Pattern

/-- A step that reads one byte. -/
structure Transition where
  bytes : Interval
  next : Nat
  deriving DecidableEq, Repr

/-- A state of an automaton. -/
inductive State where
  /-- Goes on without reading. -/
  | pass (next : Nat)
  /-- Reads one byte. -/
  | step (transition : Transition)
  /-- Reads one byte, which decides where to go on. -/
  | steps (transitions : List Transition)
  /-- Goes on where an anchor holds. -/
  | anchor (anchor : Anchor) (next : Nat)
  /-- Goes on in each of several ways. -/
  | fork (ways : List Nat)
  /-- The demands are met. -/
  | accept
  deriving Repr

namespace State

/-- The room of a state, in bytes. -/
def room : State → Nat
  | steps transitions => 32 + 8 * transitions.length
  | fork ways => 32 + 4 * ways.length
  | _ => 32

/-- Makes a state go on at another one. A fork gets one more way. -/
def leadTo (state : State) (next : Nat) : State :=
  match state with
  | pass _ => pass next
  | step transition => step { transition with next }
  | anchor a _ => anchor a next
  | fork ways => fork (next :: ways)
  | state => state

end State

/-- The states written so far. -/
structure Draft where
  states : Array State
  /-- The room that the states take. -/
  room : Nat

namespace Draft

/-- The draft without states. -/
def empty : Draft := ⟨#[], 0⟩

/-- The most room that the states of an automaton may take. -/
def greatestRoom : Nat := 0xA00000

/-- A draft whose room is within the limit. -/
def limited? (draft : Draft) : Option Draft :=
  if draft.room ≤ greatestRoom then some draft else none

end Draft

/-- Writing to a draft, which may fail for want of room. -/
abbrev Drafting := StateT Draft Option

namespace Drafting

/-- Writes a state. -/
def write (state : State) : Drafting Nat := fun ⟨states, room⟩ =>
  let number := states.size
  (Draft.limited? ⟨states.push state, room + state.room⟩).map (number, ·)

/-- Makes a state go on at another one. -/
def link (source target : Nat) : Drafting Unit := fun ⟨states, room⟩ =>
  let more :=
    match states[source]? with
    | some (.fork _) => 4
    | _ => 0
  (Draft.limited? ⟨states.modify source (·.leadTo target), room + more⟩).map ((), ·)

end Drafting

/-- A part of an automaton: where it begins, and the state that leads out of it. -/
structure Fragment where
  start : Nat
  finish : Nat

namespace Fragment

/-- A part of one state. -/
def one (state : State) : Drafting Fragment := do
  let number ← Drafting.write state
  return ⟨number, number⟩

/-- One part after another. -/
def andThen (first : Fragment) (second : Fragment) : Drafting Fragment := do
  Drafting.link first.finish second.start
  return ⟨first.start, second.finish⟩

/-- What is written so far, with the given parts after it. -/
def followedBy (first : Fragment) : List (Drafting Fragment) → Drafting Fragment
  | [] => pure first
  | part :: rest => do
    let part ← part
    let both ← first.andThen part
    both.followedBy rest

/-- Parts one after the other. -/
def chain : List (Drafting Fragment) → Drafting Fragment
  | [] => one (.pass 0)
  | part :: rest => do
    let first ← part
    first.followedBy rest

/-- What is written so far, with copies of a part after it. -/
def followedByCopies (first : Fragment) (part : Drafting Fragment) : Nat → Drafting Fragment
  | 0 => pure first
  | count + 1 => do
    let next ← part
    let both ← first.andThen next
    both.followedByCopies part count

/-- Copies of a part, one after the other. -/
def copies (part : Drafting Fragment) : Nat → Drafting Fragment
  | 0 => one (.pass 0)
  | count + 1 => do
    let first ← part
    first.followedByCopies part count

/-- What is written so far, with the given parts as further ways of a fork. -/
def joinedBy (fork finish : Nat) : List (Drafting Fragment) → Drafting Fragment
  | [] => pure ⟨fork, finish⟩
  | part :: rest => do
    let part ← part
    Drafting.link fork part.start
    Drafting.link part.finish finish
    joinedBy fork finish rest

/-- One of several parts. -/
def anyOf : List (Drafting Fragment) → Drafting Fragment
  | [] => one (.steps [])
  | [part] => part
  | first :: second :: rest => do
    let first ← first
    let second ← second
    let fork ← Drafting.write (.fork [])
    let finish ← Drafting.write (.pass 0)
    joinedBy fork finish (pure first :: pure second :: rest)

/-- A part or nothing. -/
def optional (part : Drafting Fragment) : Drafting Fragment := do
  let fork ← Drafting.write (.fork [])
  let part ← part
  let finish ← Drafting.write (.pass 0)
  Drafting.link fork part.start
  Drafting.link fork finish
  Drafting.link part.finish finish
  return ⟨fork, finish⟩

/-- A part that reads at least one byte, any number of times. -/
def anyNumber (part : Drafting Fragment) : Drafting Fragment := do
  let fork ← Drafting.write (.fork [])
  let part ← part
  Drafting.link fork part.start
  Drafting.link part.finish fork
  return ⟨fork, fork⟩

/-- A part that may read nothing, any number of times. -/
def anyNumberOrNone (part : Drafting Fragment) : Drafting Fragment := do
  let part ← part
  let again ← Drafting.write (.fork [])
  Drafting.link part.finish again
  Drafting.link again part.start
  let fork ← Drafting.write (.fork [])
  let finish ← Drafting.write (.pass 0)
  Drafting.link fork again
  Drafting.link fork finish
  Drafting.link again finish
  return ⟨fork, finish⟩

/-- A part, once or more. -/
def onceOrMore (part : Drafting Fragment) : Drafting Fragment := do
  let part ← part
  let again ← Drafting.write (.fork [])
  Drafting.link part.finish again
  Drafting.link again part.start
  return ⟨part.start, again⟩

/-- A part, at least `least` times, which are two or more. -/
def manyTimes (part : Drafting Fragment) (least : Nat) : Drafting Fragment := do
  let first ← copies part (least - 1)
  let last ← onceOrMore part
  first.andThen last

/-- What is written so far, with up to `count` parts after it, each of which may be the last
one. -/
def followedByUpTo (part : Drafting Fragment) (start finish : Nat) (last : Nat) :
    Nat → Drafting Fragment
  | 0 => do
    Drafting.link last finish
    return ⟨start, finish⟩
  | count + 1 => do
    let fork ← Drafting.write (.fork [])
    let part' ← part
    Drafting.link last fork
    Drafting.link fork part'.start
    Drafting.link fork finish
    followedByUpTo part start finish part'.finish count

/-- A part, at least `least` times and at most `more` times more. -/
def between (part : Drafting Fragment) (least more : Nat) : Drafting Fragment := do
  let first ← copies part least
  let finish ← Drafting.write (.pass 0)
  followedByUpTo part first.start finish first.finish more

end Fragment

end ScriptLoader.Pattern
