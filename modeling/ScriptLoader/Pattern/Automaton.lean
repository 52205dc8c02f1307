import ScriptLoader.Pattern.Encoding
import ScriptLoader.Pattern.WordTree

/-!
# Automata of patterns

The automaton of a node, for either direction. Only the one that reads forwards is run; the
one that reads backwards is what a search for the start of a match would need, and a pattern
is too large if either of them is.
-/

namespace ScriptLoader.Pattern

/-- The bytes of a character. -/
def bytesOf (c : Char) : List Nat :=
  (String.utf8EncodeChar c).map UInt8.toNat

/-- A list in the order in which a direction meets its elements. -/
def Direction.order {α : Type} : Direction → List α → List α
  | forwards, list => list
  | backwards, list => list.reverse

namespace Node

/-- The bytes of a text in the order in which they are read. -/
def wordOf (direction : Direction) (chars : List Char) : List Nat :=
  direction.order (chars.flatMap bytesOf)

/-- The characters of a node that is a text. -/
def text? : Node → Option (List Char)
  | text chars => some chars
  | _ => none

mutual

/-- The part of an automaton that satisfies a node. Groups are noted forwards only. -/
def fragment (direction : Direction) : Node → Drafting Fragment
  | empty => Fragment.one (.pass 0)
  | text chars =>
    Fragment.chain ((wordOf direction chars).map fun byte => Fragment.one (.step ⟨⟨byte, byte⟩, 0⟩))
  | set _ members => members.fragment direction
  | anchor a => Fragment.one (.anchor a 0)
  | sequence parts => Fragment.chain (direction.order (fragments direction parts))
  | choice branches =>
    match branches.mapM text? with
    | some texts => (WordTree.ofWords (texts.map (wordOf direction))).fragment
    | none => Fragment.anyOf (fragments direction branches)
  | repeated body least most _ =>
    let part := body.fragment direction
    match most with
    | none =>
      match least with
      | 0 =>
        if body.shortest.any (0 < ·) then Fragment.anyNumber part
        else Fragment.anyNumberOrNone part
      | 1 => Fragment.onceOrMore part
      | least => Fragment.manyTimes part least
    | some most =>
      if least = 0 && most = 1 then Fragment.optional part
      else if least = most then Fragment.copies part least
      else Fragment.between part least (most - least)
  | group _ body =>
    match direction with
    | .forwards => Fragment.chain [Fragment.one (.pass 0), body.fragment direction, Fragment.one (.pass 0)]
    | .backwards => body.fragment direction

/-- The parts of an automaton that satisfy some nodes. -/
def fragments (direction : Direction) : List Node → List (Drafting Fragment)
  | [] => []
  | node :: rest => node.fragment direction :: fragments direction rest

end

/-- Whether a match can begin only where reading begins. -/
def isBound (direction : Direction) (node : Node) : Bool :=
  match direction with
  | .forwards => node.opensWith .textStart
  | .backwards => node.closesWith .textEnd

/-- The part that skips what comes before a match. -/
def skipping (direction : Direction) (node : Node) : Drafting Fragment :=
  if node.isBound direction then Fragment.one (.pass 0)
  else
    Fragment.anyNumber do
      let finish ← Drafting.write (.pass 0)
      let start ← Drafting.write (.steps [⟨⟨0, 0xFF⟩, finish⟩])
      return ⟨start, finish⟩

/-- The states that read any bytes up to a match and then a match, and the first state of
the match. The whole match is a group. -/
def draft (direction : Direction) (node : Node) : Drafting Nat := do
  let skip ← node.skipping direction
  let whole ← (group 0 node).fragment direction
  let accept ← Drafting.write .accept
  Drafting.link whole.finish accept
  Drafting.link skip.finish whole.start
  return whole.start

end Node

/-- An automaton: its states, and where a match begins. -/
structure Automaton where
  states : Array State
  start : Nat

/-- The automaton of a node that reads in a direction, if there is room for it. -/
def Node.automaton? (direction : Direction) (node : Node) : Option Automaton :=
  (node.draft direction Draft.empty).map fun (start, draft) => ⟨draft.states, start⟩

end ScriptLoader.Pattern
