import ScriptLoader.Pattern.Draft

/-!
# Trees of words

Words, which here are lists of bytes, as a tree of their common beginnings. What can come at a
place of a word is a list of items: the next byte with what comes after it, or the end of a
word. Words are in the order in which they were added, except that a byte finds its place by
its value among those after the last end.
-/

namespace ScriptLoader.Pattern

/-- What can come at a place of a word. -/
inductive WordTree where
  /-- Nothing else. -/
  | done
  /-- A word ends. -/
  | ends (rest : WordTree)
  /-- A byte comes. -/
  | step (byte : Nat) (below rest : WordTree)

namespace WordTree

/-- Whether no byte comes. -/
def isLeaf : WordTree → Bool
  | done => true
  | ends rest => rest.isLeaf
  | step _ _ _ => false

/-- Whether a word ends. -/
def hasEnd : WordTree → Bool
  | done => false
  | ends _ => true
  | step _ _ rest => rest.hasEnd

/-- Adds the end of a word as the last item. -/
def addEnd : WordTree → WordTree
  | done => ends done
  | ends rest => ends rest.addEnd
  | step byte below rest => step byte below rest.addEnd

/-- Notes that a word ends. Where no byte comes, one end is enough. -/
def markEnd (tree : WordTree) : WordTree :=
  if tree.isLeaf && tree.hasEnd then tree else tree.addEnd

/-- Changes what comes after a byte, which is put among those after the last end. -/
def alter (byte : Nat) (change : WordTree → WordTree) : WordTree → WordTree
  | done => step byte (change done) done
  | ends rest => ends (rest.alter byte change)
  | step b below rest =>
    if rest.hasEnd || b < byte then step b below (rest.alter byte change)
    else if b = byte then step b (change below) rest
    else step byte (change done) (step b below rest)

/-- Adds a word. -/
def insert : List Nat → WordTree → WordTree
  | [], tree => tree.markEnd
  | byte :: rest, tree => tree.alter byte (insert rest)

/-- The tree of some words. -/
def ofWords (words : List (List Nat)) : WordTree :=
  words.foldl (fun tree word => tree.insert word) done

/-- Writes the steps to the bytes that come before an end, if there are any, and adds where
they begin to the ways from here. -/
def writeSteps (transitions : List Transition) (ways : List Nat) : Drafting (List Nat) :=
  match transitions with
  | [] => pure ways
  | [transition] => do
    let number ← Drafting.write (.step transition)
    return number :: ways
  | transitions => do
    let number ← Drafting.write (.steps transitions)
    return number :: ways

/-- Writes the states that read one of the words of a tree, and gives the first of them.
`transitions` are the steps since the last end, and `ways` those to go from here. -/
def write (finish : Nat) (transitions : List Transition) (ways : List Nat) :
    WordTree → Drafting Nat
  | done => do
    let ways ← writeSteps transitions ways
    Drafting.write (.fork ways)
  | ends rest => do
    let ways ← writeSteps transitions ways
    rest.write finish [] (finish :: ways)
  | step byte below rest => do
    let next ← if below.isLeaf then pure finish else below.write finish [] []
    rest.write finish (transitions ++ [⟨⟨byte, byte⟩, next⟩]) ways

/-- The part of an automaton that reads one of the words of a tree. -/
def fragment (tree : WordTree) : Drafting Fragment := do
  let finish ← Drafting.write (.pass 0)
  let start ← tree.write finish [] []
  return ⟨start, finish⟩

end WordTree

end ScriptLoader.Pattern
