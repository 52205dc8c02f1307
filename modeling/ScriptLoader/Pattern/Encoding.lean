import ScriptLoader.Pattern.Draft
import Std.Data.HashMap

/-!
# Automata for sets of characters

A character is read byte by byte. States that go on in the same way are shared, as far as
they are remembered: a memory has a number of slots, what it holds finds its slot by a hash,
and what comes later takes the slot of what was there before.

Forwards, the encodings of a set are read in order. Those that begin alike share their first
states, and a state is written when no further encoding goes through it. Backwards, each
encoding is written from its first byte on, which is read last, so that encodings that begin
alike share the states that read these bytes.
-/

namespace ScriptLoader.Pattern

/-- Which way a text is read. -/
inductive Direction where
  | forwards
  | backwards
  deriving DecidableEq, Repr

/-- States by what is known of them. -/
structure Memory where
  slots : Nat
  entries : Std.HashMap Nat (List Nat × Nat)

namespace Memory

/-- The memory without entries. -/
def blank (slots : Nat) : Memory := ⟨slots, {}⟩

/-- The hash of numbers: each is mixed in by exclusive or, then by multiplication. -/
def hash (key : List Nat) : UInt64 :=
  key.foldl (fun hash number => (hash ^^^ number.toUInt64) * 1099511628211)
    14695981039346656037

/-- The slot of a key. -/
def slot (memory : Memory) (key : List Nat) : Nat :=
  (hash key).toNat % memory.slots

/-- The state of a key, if its slot still holds it. -/
def find? (memory : Memory) (key : List Nat) : Option Nat :=
  match memory.entries[memory.slot key]? with
  | some (held, state) => if held = key then some state else none
  | none => none

/-- Puts a state into the slot of its key. -/
def put (memory : Memory) (key : List Nat) (state : Nat) : Memory :=
  { memory with entries := memory.entries.insert (memory.slot key) (key, state) }

end Memory

/-- What makes up a step. -/
def Transition.key (transition : Transition) : List Nat :=
  [transition.bytes.first, transition.bytes.last, transition.next]

namespace Encoding

/-- A state that is not written yet: its steps so far, the last one first, and the bytes of
the step whose target is not written yet. -/
structure Pending where
  steps : List Transition
  bytes : Option Interval

/-- The steps of a state when the target of the last one is known. -/
def Pending.close (pending : Pending) (next : Nat) : List Transition :=
  match pending.bytes with
  | some bytes => ⟨bytes, next⟩ :: pending.steps
  | none => pending.steps

/-- Writes a state with the given steps, the last one first, unless it is remembered. -/
def writeShared (steps : List Transition) (memory : Memory) : Drafting (Nat × Memory) := do
  let steps := steps.reverse
  let key := steps.flatMap Transition.key
  match memory.find? key with
  | some state => return (state, memory)
  | none =>
    let state ← Drafting.write (.steps steps)
    return (state, memory.put key state)

/-- Writes the states that are pending, the first of which leads to the others, and gives
that first one; with none, it is the state after the character. -/
def writeAll (finish : Nat) (memory : Memory) : List Pending → Drafting (Nat × Memory)
  | [] => return (finish, memory)
  | pending :: below => do
    let (next, memory) ← writeAll finish memory below
    writeShared (pending.close next) memory

/-- Adds an encoding to the pending states. Those that it does not share are written. -/
def add (finish : Nat) (memory : Memory) :
    List Pending → List Interval → Drafting (List Pending × Memory)
  | pending :: below, bytes :: rest => do
    if pending.bytes = some bytes then
      let (below, memory) ← add finish memory below rest
      return (pending :: below, memory)
    else
      let (next, memory) ← writeAll finish memory below
      return (⟨pending.close next, some bytes⟩ :: rest.map (⟨[], some ·⟩), memory)
  | pending, _ => return (pending, memory)

/-- Adds encodings to the pending states and writes them all. -/
def writeForwards (finish : Nat) (memory : Memory) (pending : List Pending) :
    List (List Interval) → Drafting Nat
  | [] => do
    let (start, _) ← writeAll finish memory pending
    return start
  | encoding :: rest => do
    let (pending, memory) ← add finish memory pending encoding
    writeForwards finish memory pending rest

/-- Writes the states that read an encoding backwards, and gives the first of them. -/
def writeBackwards (next : Nat) (memory : Memory) :
    List Interval → Drafting (Nat × Memory)
  | [] => return (next, memory)
  | bytes :: rest => do
    let key := [next, bytes.first, bytes.last]
    match memory.find? key with
    | some state => writeBackwards state memory rest
    | none =>
      let state ← Drafting.write (.step ⟨bytes, next⟩)
      writeBackwards state (memory.put key state) rest

/-- Writes the states that read one of some encodings backwards, as ways of a fork. -/
def forkBackwards (fork finish : Nat) (memory : Memory) :
    List (List Interval) → Drafting Unit
  | [] => return ()
  | encoding :: rest => do
    let (start, memory) ← writeBackwards finish memory encoding
    Drafting.link fork start
    forkBackwards fork finish memory rest

end Encoding

/-- The part of an automaton that reads a character of a set. -/
def CharSet.fragment (direction : Direction) (set : CharSet) : Drafting Fragment := do
  if set.isAscii then
    let finish ← Drafting.write (.pass 0)
    let start ← Drafting.write (.steps (set.intervals.map (⟨·, finish⟩)))
    return ⟨start, finish⟩
  else
    let encodings := set.intervals.flatMap Interval.sequences
    match direction with
    | .forwards =>
      let finish ← Drafting.write (.pass 0)
      let start ← Encoding.writeForwards finish (.blank 10000) [⟨[], none⟩] encodings
      return ⟨start, finish⟩
    | .backwards =>
      let fork ← Drafting.write (.fork [])
      let finish ← Drafting.write (.pass 0)
      Encoding.forkBackwards fork finish (.blank 1000) encodings
      return ⟨fork, finish⟩

end ScriptLoader.Pattern
