import ScriptLoader.Pattern.Automaton
import ScriptLoader.Pattern.Named
import ScriptLoader.Pattern.Parser

/-!
# Matching

Whether a pattern describes some part of a text. The automaton of the pattern is run on the
bytes of the text with a match beginning before each character, so that the states it may be
in are known at each place. No state is entered twice at one place, which bounds the work by
the number of states times the length of the text.
-/

namespace ScriptLoader.Pattern

/-- A character beside a place, if there is one, and whether it belongs to words. -/
structure Neighbour where
  char : Option Char
  inWord : Alphabet → Bool

/-- No character. -/
def Neighbour.none : Neighbour := ⟨.none, fun _ => false⟩

/-- A character as a neighbour. -/
def Neighbour.of (c : Char) : Neighbour :=
  let every := CharSet.words.has c
  let ascii := CharSet.asciiWords.has c
  ⟨some c, fun
    | .every => every
    | .ascii => ascii⟩

/-- Whether an anchor holds between two neighbours. -/
def Anchor.holds (anchor : Anchor) (before after : Neighbour) : Bool :=
  match anchor with
  | textStart => before.char.isNone
  | textEnd => after.char.isNone
  | lineStart => before.char.all (· = '\n')
  | lineEnd => after.char.all (· = '\n')
  | anyLineStart =>
    before.char.all fun c => c = '\n' || (c = '\r' && after.char ≠ some '\n')
  | anyLineEnd =>
    after.char.all fun c => c = '\r' || (c = '\n' && before.char ≠ some '\r')
  | wordEdge alphabet => before.inWord alphabet != after.inWord alphabet
  | notWordEdge alphabet => before.inWord alphabet == after.inWord alphabet
  | wordStart alphabet => !before.inWord alphabet && after.inWord alphabet
  | wordEnd alphabet => before.inWord alphabet && !after.inWord alphabet
  | wordStartHalf alphabet => !before.inWord alphabet
  | wordEndHalf alphabet => !after.inWord alphabet

/-- The states that an automaton may be in at a place. -/
structure Spread where
  /-- At which place each state was entered last. -/
  entered : Array Nat
  /-- The states that read a byte. -/
  reading : List State
  /-- Whether the demands are met. -/
  accepted : Bool

namespace Automaton

/-- An upper bound for the number of ways between states. -/
def ways (automaton : Automaton) : Nat :=
  automaton.states.foldl (fun sum state => sum + state.room) 0

/-- Enters states at a place, and the states that these go on at without reading. Each
state that is entered and each state found entered already takes one step. -/
def enter (automaton : Automaton) (holds : Anchor → Bool) (place : Nat) :
    Nat → List Nat → Spread → Spread
  | 0, _, spread => spread
  | _, [], spread => spread
  | steps + 1, number :: rest, spread =>
    if spread.entered[number]? = some place then
      automaton.enter holds place steps rest spread
    else
      let ⟨entered, reading, accepted⟩ := spread
      let entered := entered.setIfInBounds number place
      match automaton.states[number]? with
      | none => automaton.enter holds place steps rest ⟨entered, reading, accepted⟩
      | some .accept => ⟨entered, reading, true⟩
      | some (.pass next) =>
        automaton.enter holds place steps (next :: rest) ⟨entered, reading, accepted⟩
      | some (.anchor anchor next) =>
        automaton.enter holds place steps (if holds anchor then next :: rest else rest)
          ⟨entered, reading, accepted⟩
      | some (.fork ways) =>
        automaton.enter holds place steps (ways ++ rest) ⟨entered, reading, accepted⟩
      | some state =>
        automaton.enter holds place steps rest ⟨entered, state :: reading, accepted⟩

/-- Where a state goes on after a byte. -/
def after? (byte : Nat) : State → Option Nat
  | .step transition => if transition.bytes.contains byte then some transition.next else none
  | .steps transitions => (transitions.find? (·.bytes.contains byte)).map (·.next)
  | _ => none

/-- The states after a byte. -/
def afterByte (spread : Spread) (byte : Nat) : List Nat :=
  spread.reading.filterMap (after? byte)

/-- Reads the bytes of a character. Within a character no anchor holds. -/
def read (automaton : Automaton) (room : Nat) (place : Nat) :
    List Nat → Spread → List Nat × Nat × Array Nat
  | [], spread => ([], place, spread.entered)
  | [byte], spread => (afterByte spread byte, place + 1, spread.entered)
  | byte :: rest, spread =>
    let states := afterByte spread byte
    automaton.read room (place + 1) rest
      (automaton.enter (fun _ => false) (place + 1) (room + states.length) states
        ⟨spread.entered, [], false⟩)

/-- The states at a place, where a match may begin, too. -/
def spreadAt (automaton : Automaton) (room place : Nat) (before after : Neighbour)
    (states : List Nat) (entered : Array Nat) : Spread :=
  automaton.enter (·.holds before after) place (room + states.length + 1)
    (automaton.start :: states) ⟨entered, [], false⟩

/-- Whether a match ends in the rest of a text, when `states` are the states before it. -/
def acceptsFrom (automaton : Automaton) (room place : Nat) (before : Neighbour)
    (states : List Nat) (entered : Array Nat) : List Char → Bool
  | [] => (automaton.spreadAt room place before .none states entered).accepted
  | c :: rest =>
    let after := Neighbour.of c
    let spread := automaton.spreadAt room place before after states entered
    if spread.accepted then true
    else
      let (states, place, entered) := automaton.read room place (bytesOf c) spread
      automaton.acceptsFrom room place after states entered rest

/-- Whether some part of a text leads from the start of an automaton to acceptance. -/
def acceptsPart (automaton : Automaton) (text : List Char) : Bool :=
  automaton.acceptsFrom automaton.ways 1 .none [] (.replicate automaton.states.size 0) text

end Automaton

end ScriptLoader.Pattern

namespace ScriptLoader

/-- A pattern with the text that writes it. -/
structure Pattern where
  source : String
  automaton : Pattern.Automaton

namespace Pattern

/-- Reads a pattern. It is refused if it does not follow the grammar, is nested too deeply, or
is too large for an automaton in one of the two directions. -/
def compile? (source : String) : Option Pattern := do
  let node ← Node.parse? source
  let automaton ← node.automaton? .forwards
  let _ ← node.automaton? .backwards
  return ⟨source, automaton⟩

/-- Whether a text has a part that the pattern describes. -/
def matchesIn (pattern : Pattern) (text : String) : Bool :=
  pattern.automaton.acceptsPart text.toList

end Pattern

end ScriptLoader
