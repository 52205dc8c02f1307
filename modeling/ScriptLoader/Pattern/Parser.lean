import ScriptLoader.Pattern.Notation
import ScriptLoader.Text.Alphanumeric

/-!
# Reading patterns

A pattern is read from left to right. What is open at a place, the groups and in each of
them the alternatives so far and the pieces of the current one, is kept on a stack.
-/

namespace ScriptLoader.Pattern

/-- A part of an alternative. -/
structure Piece where
  node : Node
  /-- How deep the notation of the part is nested. -/
  depth : Nat
  /-- Whether a repetition may follow. -/
  repeatable : Bool

/-- A node with the depth of its notation. -/
structure DeepNode where
  node : Node
  depth : Nat

/-- A group that is open: what comes before it, and the settings there. -/
structure OpenGroup where
  /-- The number under which the place of the group is noted, if it is. -/
  number : Option Nat
  pieces : List Piece
  branches : List DeepNode
  flags : Flags

/-- What is read so far. -/
structure Reading where
  /-- The settings in force. -/
  flags : Flags
  /-- How many groups have a number. -/
  numbered : Nat
  /-- The names of the groups so far. -/
  names : List (List Char)
  /-- The pieces of the current alternative, the last one first. -/
  pieces : List Piece
  /-- The earlier alternatives of the current group, the last one first. -/
  branches : List DeepNode
  /-- The groups around, the innermost first. -/
  groups : List OpenGroup

/-- The deepest nesting that a pattern may have. -/
def greatestDepth : Nat := 250

/-- The alternative that pieces make up, the last of which comes first. -/
def alternativeOf (pieces : List Piece) : DeepNode :=
  match pieces with
  | [] => ⟨.empty, 0⟩
  | [piece] => ⟨piece.node, piece.depth⟩
  | pieces =>
    ⟨.sequenceOf (pieces.reverse.map (·.node)),
      1 + (pieces.map (·.depth)).foldl max 0⟩

/-- What stands in the current group. -/
def Reading.inside (reading : Reading) : DeepNode :=
  let last := alternativeOf reading.pieces
  match reading.branches with
  | [] => last
  | branches =>
    ⟨.choiceOf ((last :: branches).reverse.map (·.node)),
      1 + ((last :: branches).map (·.depth)).foldl max 0⟩

/-- Adds a piece to the current alternative. -/
def Reading.push (reading : Reading) (node : Node) (depth : Nat) : Reading :=
  { reading with pieces := ⟨node, depth, true⟩ :: reading.pieces }

/-- Begins the next alternative. -/
def Reading.nextBranch (reading : Reading) : Reading :=
  { reading with
    pieces := []
    branches := alternativeOf reading.pieces :: reading.branches }

/-- Begins a group with settings of its own. -/
def Reading.openGroup (reading : Reading) (number : Option Nat) (flags : Flags) : Reading :=
  { reading with
    flags
    pieces := []
    branches := []
    groups := ⟨number, reading.pieces, reading.branches, reading.flags⟩ :: reading.groups }

/-- Begins a group with the next number. -/
def Reading.openNumbered (reading : Reading) : Reading :=
  { reading.openGroup (some reading.numbered) reading.flags with
    numbered := reading.numbered + 1 }

/-- Ends the current group, if one is open. -/
def Reading.closeGroup? (reading : Reading) : Option Reading :=
  match reading.groups with
  | [] => none
  | group :: groups =>
    let inside := reading.inside
    let node :=
      match group.number with
      | some number => .group number inside.node
      | none => inside.node
    some
      { reading with
        flags := group.flags
        pieces := ⟨node, 1 + inside.depth, true⟩ :: group.pieces
        branches := group.branches
        groups }

/-- Repeats the last piece. A `?` that follows makes the repetition prefer few. -/
def Reading.repeat? (reading : Reading) (least : Nat) (most : Option Nat)
    (rest : List Char) : Option (Reading × List Char) :=
  let (isLazy, rest) :=
    match rest with
    | '?' :: rest => (true, rest)
    | rest => (false, rest)
  match reading.pieces with
  | [] => none
  | piece :: pieces =>
    if piece.repeatable then
      let node := piece.node.repeatedOf least most (isLazy = reading.flags.swapGreed)
      some ({ reading with pieces := ⟨node, 1 + piece.depth, true⟩ :: pieces }, rest)
    else none

/-- The letters of settings. -/
inductive FlagName where
  | ignoreCase
  | multiLine
  | dotAll
  | swapGreed
  | unicode
  | anyLineEnd
  | spaced
  deriving DecidableEq

/-- The setting that a letter stands for. -/
def FlagName.ofChar? : Char → Option FlagName
  | 'i' => some .ignoreCase
  | 'm' => some .multiLine
  | 's' => some .dotAll
  | 'U' => some .swapGreed
  | 'u' => some .unicode
  | 'R' => some .anyLineEnd
  | 'x' => some .spaced
  | _ => none

/-- Changes a setting. -/
def Flags.set (flags : Flags) (name : FlagName) (value : Bool) : Flags :=
  match name with
  | .ignoreCase => { flags with ignoreCase := value }
  | .multiLine => { flags with multiLine := value }
  | .dotAll => { flags with dotAll := value }
  | .swapGreed => { flags with swapGreed := value }
  | .unicode => { flags with unicode := value }
  | .anyLineEnd => { flags with anyLineEnd := value }
  | .spaced => { flags with spaced := value }

/-- The settings written at the start of a group, up to `:` or `)`, which is left. Each one
may stand there once, and one hyphen, which turns off those after it and has some. -/
def readFlags? (flags : Flags) (seen : List FlagName) (off dangling : Bool) :
    List Char → Option (Flags × Bool × List Char)
  | [] => none
  | c :: rest =>
    if c = ':' || c = ')' then
      if dangling then none else some (flags, seen = [] && !off, c :: rest)
    else if c = '-' then
      if off then none else readFlags? flags seen true true rest
    else
      match FlagName.ofChar? c with
      | none => none
      | some name =>
        if seen.contains name then none
        else readFlags? (flags.set name (!off)) (name :: seen) off false rest

/-- Whether a character may begin the name of a group. -/
def isNameStart (c : Char) : Bool :=
  c = '_' || Text.isAlphabetic c

/-- Whether a character may go on with the name of a group. -/
def isNamePart (c : Char) : Bool :=
  c = '_' || c = '.' || c = '[' || c = ']' || Text.isAlphanumeric c

/-- The name of a group, up to its `>`. -/
def readGroupName? (rest : List Char) : Option (List Char × List Char) :=
  let name := rest.takeWhile (· ≠ '>')
  match name, rest.dropWhile (· ≠ '>') with
  | c :: more, '>' :: rest =>
    if isNameStart c && more.all isNamePart then some (name, rest) else none
  | _, _ => none

/-- Begins a group with a name that no other group has. -/
def Reading.openNamed? (reading : Reading) (rest : List Char) :
    Option (Reading × List Char) := do
  let (name, rest) ← readGroupName? rest
  if reading.names.contains name then none
  else return ({ reading.openNumbered with names := name :: reading.names }, rest)

/-- Reads on after an opening parenthesis. -/
def Reading.readGroup? (reading : Reading) (rest : List Char) :
    Option (Reading × List Char) :=
  match reading.flags.skip rest with
  | '?' :: '=' :: _ => none
  | '?' :: '!' :: _ => none
  | '?' :: '<' :: '=' :: _ => none
  | '?' :: '<' :: '!' :: _ => none
  | '?' :: 'P' :: '<' :: rest => reading.openNamed? rest
  | '?' :: '<' :: rest => reading.openNamed? rest
  | '?' :: rest =>
    match readFlags? reading.flags [] false false rest with
    | some (flags, _, ':' :: rest) => some (reading.openGroup none flags, rest)
    | some (flags, isNone, ')' :: rest) =>
      if isNone then none
      else some ({ reading with flags, pieces := ⟨.empty, 0, false⟩ :: reading.pieces }, rest)
    | _ => none
  | rest => some (reading.openNumbered, rest)

/-- The greatest number that a repetition may have. -/
def greatestCount : Nat := 0xFFFFFFFF

/-- The digits of a number, between which blanks and comments may not count. -/
def readDigits (flags : Flags) : Nat → List Nat → List Char → List Nat × List Char
  | fuel + 1, taken, c :: rest =>
    if c.isDigit then readDigits flags fuel (Json.digitValue c :: taken) (flags.skip rest)
    else (taken.reverse, c :: rest)
  | _, taken, rest => (taken.reverse, rest)

/-- The number in a repetition, with blanks around; none if there are no digits. A number
that is too large is refused. -/
def readCount? (flags : Flags) (rest : List Char) : Option (Option Nat × List Char) :=
  let rest := rest.dropWhile Text.isBlank
  let (digits, rest) := readDigits flags rest.length [] rest
  let rest := if rest.takeWhile Text.isBlank = [] then rest
    else flags.skip (rest.dropWhile Text.isBlank)
  let count := Json.ofDigits 10 digits
  if digits = [] then some (none, rest)
  else if count ≤ greatestCount then some (some count, rest)
  else none

/-- The numbers of a repetition, after its `{`. -/
def readCounts? (flags : Flags) (rest : List Char) :
    Option (Nat × Option Nat × List Char) := do
  let rest := flags.skip rest
  if rest = [] then none
  let (least, rest) ← readCount? flags rest
  let least ← least
  match rest with
  | ',' :: rest =>
    match flags.skip rest with
    | '}' :: rest => return (least, none, rest)
    | rest =>
      let (most, rest) ← readCount? flags rest
      let most ← most
      match rest with
      | '}' :: rest => if least ≤ most then return (least, some most, rest) else none
      | _ => none
  | '}' :: rest => return (least, some least, rest)
  | _ => none

/-- A character, with its case variants if case does not count. Where names of sets mean
ASCII only, just the letters of ASCII have variants, and a byte that is no character of its
own is refused. -/
def Flags.character? (flags : Flags) (c : Char) (byte : Bool) : Option Node :=
  if !flags.unicode && byte && 0x7F < c.toNat then none
  else some (.ofSet (!flags.unicode && c.isAlpha && flags.ignoreCase) (flags.withCase (.single c)))

/-- The node of an anchor, a set or a character. -/
def Primitive.node? (flags : Flags) : Primitive → Option Node
  | .character c byte => flags.character? c byte
  | .set members => some (.ofSet (!flags.unicode) members)
  | .textStart => some (.anchor .textStart)
  | .textEnd => some (.anchor .textEnd)
  | .wordEdge => some (.anchor (.wordEdge flags.alphabet))
  | .notWordEdge => some (.anchor (.notWordEdge flags.alphabet))
  | .wordStart => some (.anchor (.wordStart flags.alphabet))
  | .wordEnd => some (.anchor (.wordEnd flags.alphabet))
  | .wordStartHalf => some (.anchor (.wordStartHalf flags.alphabet))
  | .wordEndHalf => some (.anchor (.wordEndHalf flags.alphabet))

/-- The set that `.` stands for. It has no meaning for bytes. -/
def Flags.dot? (flags : Flags) : Option CharSet :=
  if !flags.unicode then none
  else if flags.dotAll then some .all
  else if flags.anyLineEnd then some (CharSet.union (.single '\n') (.single '\r')).compl
  else some (CharSet.single '\n').compl

/-- The anchor that `^` stands for. -/
def Flags.startAnchor (flags : Flags) : Anchor :=
  if !flags.multiLine then .textStart
  else if flags.anyLineEnd then .anyLineStart
  else .lineStart

/-- The anchor that `$` stands for. -/
def Flags.endAnchor (flags : Flags) : Anchor :=
  if !flags.multiLine then .textEnd
  else if flags.anyLineEnd then .anyLineEnd
  else .lineEnd

/-- Reads one part of a pattern. -/
def Reading.step? (reading : Reading) (c : Char) (rest : List Char) :
    Option (Reading × List Char) :=
  let flags := reading.flags
  match c with
  | '(' => reading.readGroup? rest
  | ')' => reading.closeGroup?.map (·, rest)
  | '|' => some (reading.nextBranch, rest)
  | '[' => (readSet? flags rest).map fun (set, rest) =>
      (reading.push (.ofSet (!flags.unicode) set.set) set.depth, rest)
  | '?' => reading.repeat? 0 (some 1) rest
  | '*' => reading.repeat? 0 none rest
  | '+' => reading.repeat? 1 none rest
  | '{' => do
    let (least, most, rest) ← readCounts? flags rest
    reading.repeat? least most (flags.skip rest)
  | '\\' => do
    let (primitive, rest) ← readEscape? flags rest
    let node ← primitive.node? flags
    return (reading.push node 0, rest)
  | '.' => flags.dot?.map fun set => (reading.push (.ofSet false set) 0, rest)
  | '^' => some (reading.push (.anchor flags.startAnchor) 0, rest)
  | '$' => some (reading.push (.anchor flags.endAnchor) 0, rest)
  | c => (flags.character? c false).map fun node => (reading.push node 0, rest)

/-- Reads the rest of a pattern, at most `fuel` parts of it; a part takes at least one
character. -/
def Reading.runWithin : Nat → Reading → List Char → Option Reading
  | 0, reading, rest => if reading.flags.skip rest = [] then some reading else none
  | fuel + 1, reading, rest =>
    match reading.flags.skip rest with
    | [] => some reading
    | c :: rest =>
      match reading.step? c rest with
      | none => none
      | some (reading, rest) => Reading.runWithin fuel reading rest

/-- The node that a pattern stands for, if it follows the grammar and is not nested too
deeply. -/
def Node.parse? (pattern : String) : Option Node := do
  let start : Reading := ⟨.initial, 1, [], [], [], []⟩
  let reading ← start.runWithin pattern.length pattern.toList
  let whole := reading.inside
  if reading.groups.isEmpty && whole.depth ≤ greatestDepth then return whole.node
  else none

end ScriptLoader.Pattern
