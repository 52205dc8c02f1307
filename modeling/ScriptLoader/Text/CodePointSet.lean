/-!
# Sets of code points

A property of characters that a standard fixes by enumeration is kept as a table of
inclusive ranges in increasing order, and looked up by halving. A table is written as
text: numbers in base 36 separated by blanks, which are by turns the length of a gap
between two ranges and the length of a range.
-/

namespace ScriptLoader

/-- A set of code points given by inclusive ranges in increasing order. -/
structure CodePointSet where
  /-- First and last code point of each range. -/
  ranges : Array (Nat × Nat)
  deriving DecidableEq, Repr

namespace CodePointSet

/-- Looks for `code` among the ranges from position `low` up to, not including, `high`. -/
def containsBetween (ranges : Array (Nat × Nat)) (code low high : Nat) : Bool :=
  if _h : low < high then
    let middle := (low + high) / 2
    match ranges[middle]? with
    | none => false
    | some (first, last) =>
      if code < first then containsBetween ranges code low middle
      else if last < code then containsBetween ranges code (middle + 1) high
      else true
  else false
termination_by high - low

/-- Whether the set holds a code point. -/
def contains (set : CodePointSet) (code : Nat) : Bool :=
  containsBetween set.ranges code 0 set.ranges.size

/-- Whether the set holds a character. -/
def has (set : CodePointSet) (c : Char) : Bool :=
  set.contains c.toNat

/-- The value of a digit in base 36. -/
def digitValue (c : Char) : Nat :=
  if c.isDigit then c.toNat - '0'.toNat else c.toNat - 'a'.toNat + 10

/-- The numbers in base 36 that blanks separate in a text, in order. -/
def numbersOf (text : String) : List Nat :=
  let step (state : List Nat × Option Nat) (c : Char) : List Nat × Option Nat :=
    if c = ' ' || c = '\n' then
      (match state.2 with
        | none => state.1
        | some number => number :: state.1, none)
    else (state.1, some (state.2.getD 0 * 36 + digitValue c))
  let (numbers, last) := text.toList.foldl step ([], none)
  (match last with
    | none => numbers
    | some number => number :: numbers).reverse

/-- The ranges that follow `next` when gaps and lengths alternate. -/
def rangesFrom (next : Nat) : List Nat → List (Nat × Nat)
  | gap :: length :: more =>
    (next + gap, next + gap + length - 1) :: rangesFrom (next + gap + length) more
  | _ => []

/-- The set written as a table of gaps and lengths. -/
def ofTable (text : String) : CodePointSet :=
  ⟨(rangesFrom 0 (numbersOf text)).toArray⟩

end CodePointSet

end ScriptLoader
