/-!
# Intervals of numbers

A set of numbers as a list of intervals, the lowest first, with a gap between any two of
them. `Interval.sequences` cuts an interval of code points into runs of encodings: in UTF-8
the characters of a run have as many bytes as each other, and each byte takes every value of
an interval on its own.
-/

namespace ScriptLoader.Pattern

/-- The numbers from the first to the last one. -/
structure Interval where
  first : Nat
  last : Nat
  deriving DecidableEq, Repr

namespace Interval

/-- The greatest code point. -/
def greatest : Nat := 0x10FFFF

/-- The code points that are no characters. -/
def surrogates : Interval := ⟨0xD800, 0xDFFF⟩

/-- Whether a number belongs to an interval. -/
def contains (interval : Interval) (number : Nat) : Bool :=
  interval.first ≤ number && number ≤ interval.last

/-- An interval followed by others that do not begin below it; those that touch are joined. -/
def joinedFrom (current : Interval) : List Interval → List Interval
  | [] => [current]
  | next :: rest =>
    if next.first ≤ current.last + 1 then
      joinedFrom ⟨current.first, max current.last next.last⟩ rest
    else current :: joinedFrom next rest

/-- Intervals in the order of their first numbers, joined where they touch. -/
def joined : List Interval → List Interval
  | [] => []
  | first :: rest => joinedFrom first rest

/-- Puts an interval into an ordered list; `merged` merges what the interval was the head of
with what comes after it there. -/
def mergedInto (interval : Interval) (merged : List Interval → List Interval) :
    List Interval → List Interval
  | [] => interval :: merged []
  | next :: rest =>
    if interval.first ≤ next.first then interval :: merged (next :: rest)
    else next :: mergedInto interval merged rest

/-- Two lists in the order of first numbers as one. -/
def merged : List Interval → List Interval → List Interval
  | [], others => others
  | interval :: rest, others => mergedInto interval (merged rest) others

/-- What is in one of two sets. -/
def union (a b : List Interval) : List Interval :=
  joined (merged a b)

/-- What is between the intervals, from a code point on. -/
def gapsFrom (next : Nat) : List Interval → List Interval
  | [] => if next ≤ greatest then [⟨next, greatest⟩] else []
  | interval :: rest =>
    let gaps := gapsFrom (interval.last + 1) rest
    if next < interval.first then ⟨next, interval.first - 1⟩ :: gaps else gaps

/-- The characters that are not in a set. -/
def compl (a : List Interval) : List Interval :=
  gapsFrom 0 (union a [surrogates])

/-- The characters that are in both sets. -/
def inter (a b : List Interval) : List Interval :=
  compl (union (compl a) (compl b))

/-- The characters that are in the first set only. -/
def diff (a b : List Interval) : List Interval :=
  inter a (compl b)

/-- The characters that are in exactly one of two sets. -/
def symmDiff (a b : List Interval) : List Interval :=
  union (diff a b) (diff b a)

/-- Looks for a number among the intervals from position `low` up to, not including, `high`,
in at most as many steps as the first argument says. -/
def searchWithin (intervals : Array Interval) (number : Nat) : Nat → Nat → Nat → Bool
  | 0, _, _ => false
  | steps + 1, low, high =>
    if low < high then
      let middle := (low + high) / 2
      match intervals[middle]? with
      | none => false
      | some interval =>
        if number < interval.first then searchWithin intervals number steps low middle
        else if interval.last < number then
          searchWithin intervals number steps (middle + 1) high
        else true
    else false

/-- Looks for a number by halving. Sixty-four halvings leave nothing of any array. -/
def search (intervals : Array Interval) (number : Nat) : Bool :=
  searchWithin intervals number 64 0 intervals.size

/-- The values of a byte after the first one of a character, without its mark. -/
def trailing : Interval := ⟨0, 63⟩

/-- The runs of the numbers from `low` to `high`, written in base 64 with `digits` digits
after the first. -/
def runs : Nat → Nat → Nat → List (List Interval)
  | 0, low, high => [[⟨low, high⟩]]
  | digits + 1, low, high =>
    let size := Nat.pow 64 (digits + 1)
    let under (lead : Nat) (runs : List (List Interval)) : List (List Interval) :=
      runs.map (⟨lead, lead⟩ :: ·)
    let opensWhole := low % size = 0
    let closesWhole := high % size = size - 1
    if low / size = high / size && !(opensWhole && closesWhole) then
      under (low / size) (runs digits (low % size) (high % size))
    else
      let first := if opensWhole then low / size else low / size + 1
      let past := if closesWhole then high / size + 1 else high / size
      (if opensWhole then [] else under (low / size) (runs digits (low % size) (size - 1))) ++
        (if first < past then
          [⟨first, past - 1⟩ :: List.replicate (digits + 1) trailing] else []) ++
        (if closesWhole then [] else under (high / size) (runs digits 0 (high % size)))

/-- The characters with as many bytes as each other: how many bytes follow the first one,
the mark of the first one, and the lowest and the highest character. -/
def lengths : List (Nat × Nat × Interval) :=
  [(0, 0, ⟨0, 0x7F⟩), (1, 0xC0, ⟨0x80, 0x7FF⟩), (2, 0xE0, ⟨0x800, 0xD7FF⟩),
    (2, 0xE0, ⟨0xE000, 0xFFFF⟩), (3, 0xF0, ⟨0x10000, greatest⟩)]

/-- Adds a mark to both ends. -/
def marked (interval : Interval) (mark : Nat) : Interval :=
  ⟨interval.first + mark, interval.last + mark⟩

/-- The runs of the encodings of the characters in an interval, as intervals of bytes. -/
def sequences (interval : Interval) : List (List Interval) :=
  lengths.flatMap fun (digits, mark, among) =>
    let low := max interval.first among.first
    let high := min interval.last among.last
    if high < low then []
    else
      (runs digits low high).map fun run =>
        match run with
        | [] => []
        | lead :: rest => lead.marked mark :: rest.map (·.marked 0x80)

end Interval

end ScriptLoader.Pattern
