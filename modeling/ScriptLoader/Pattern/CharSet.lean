import ScriptLoader.Pattern.Interval
import ScriptLoader.Text.LetterCase
import ScriptLoader.Text.CodePointSet

/-!
# Sets of characters

A set is kept as its intervals, the lowest first, with a gap between any two of them, so
that two sets with the same characters are equal.
-/

namespace ScriptLoader.Pattern

/-- A set of characters. -/
structure CharSet where
  intervals : List Interval
  deriving DecidableEq, Repr

namespace CharSet

/-- The set without characters. -/
def empty : CharSet := ⟨[]⟩

/-- The set of one character. -/
def single (c : Char) : CharSet := ⟨[⟨c.toNat, c.toNat⟩]⟩

/-- What is in one of two sets. -/
def union (a b : CharSet) : CharSet := ⟨Interval.union a.intervals b.intervals⟩

/-- What is in both sets. -/
def inter (a b : CharSet) : CharSet := ⟨Interval.inter a.intervals b.intervals⟩

/-- What is in the first set only. -/
def diff (a b : CharSet) : CharSet := ⟨Interval.diff a.intervals b.intervals⟩

/-- What is in exactly one of two sets. -/
def symmDiff (a b : CharSet) : CharSet := ⟨Interval.symmDiff a.intervals b.intervals⟩

/-- What is not in a set. -/
def compl (a : CharSet) : CharSet := ⟨Interval.compl a.intervals⟩

/-- The set of all characters. -/
def all : CharSet := compl empty

/-- The characters from the first code point to the last one. -/
def range (first last : Nat) : CharSet :=
  if first ≤ last then inter ⟨[⟨first, last⟩]⟩ all else empty

/-- Joins neighbours in a list of sets in pairs. -/
def unionPairs : List CharSet → List CharSet
  | a :: b :: rest => a.union b :: unionPairs rest
  | sets => sets

/-- The union of sets, found in rounds in each of which half of them are left. -/
def unionWithin : Nat → List CharSet → CharSet
  | 0, sets => sets.foldr union empty
  | rounds + 1, sets =>
    match sets with
    | [] => empty
    | [set] => set
    | sets => unionWithin rounds (unionPairs sets)

/-- The union of sets. -/
def unionOf (sets : List CharSet) : CharSet :=
  unionWithin 64 sets

/-- The set written as a table of gaps and lengths. -/
def ofTable (text : String) : CharSet :=
  ⟨(CodePointSet.ofTable text).ranges.toList.map fun (first, last) => ⟨first, last⟩⟩

/-- Whether a set holds a character. -/
def has (set : CharSet) (c : Char) : Bool :=
  set.intervals.any (·.contains c.toNat)

/-- Whether a set lies within ASCII. -/
def isAscii (set : CharSet) : Bool :=
  set.intervals.all (·.last ≤ 0x7F)

/-- The only character of a set, if it has just one. -/
def only? (set : CharSet) : Option Char :=
  match set.intervals with
  | [interval] => if interval.first = interval.last then some (.ofNat interval.first) else none
  | _ => none

/-- A set with all members of the given groups that have a member in it. -/
def withGroups (groups : List (List Nat)) (set : CharSet) : CharSet :=
  let intervals := set.intervals.toArray
  let found := groups.filter fun group => group.any (Interval.search intervals)
  set.union (unionOf (found.flatten.map fun code => ⟨[⟨code, code⟩]⟩))

/-- A set with the characters that differ in case only from one of its own. -/
def anyCase (set : CharSet) : CharSet :=
  withGroups Text.caseGroups set

/-- A set with the characters that differ in ASCII case only from one of its own. -/
def anyAsciiCase (set : CharSet) : CharSet :=
  withGroups Text.asciiCaseGroups set

end CharSet

end ScriptLoader.Pattern
