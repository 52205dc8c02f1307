import ScriptLoader.Json.Token
import ScriptLoader.Path.Normalize
import ScriptLoader.Pattern.Basic
import ScriptLoader.Pattern.Named
import ScriptLoader.Text.Blank

/-!
# Notation of single characters and sets

The parts of the notation of patterns that stand for one character, a set of characters or
an anchor: escapes, and sets in brackets. A part that does not follow the grammar is none.
-/

namespace ScriptLoader.Pattern

/-- The settings that are in force at a place of a pattern. -/
structure Flags where
  /-- Letters stand for their case variants, too. -/
  ignoreCase : Bool
  /-- `^` and `$` stand at lines. -/
  multiLine : Bool
  /-- `.` stands for a line feed, too. -/
  dotAll : Bool
  /-- Repetitions prefer few, and those marked with `?` prefer many. -/
  swapGreed : Bool
  /-- Names of sets mean characters of all scripts. -/
  unicode : Bool
  /-- A carriage return ends a line, too. -/
  anyLineEnd : Bool
  /-- Blanks and comments in the pattern do not count. -/
  spaced : Bool

namespace Flags

/-- The settings at the start of a pattern. -/
def initial : Flags :=
  ⟨false, false, false, false, true, false, false⟩

/-- A set with the case variants of its characters, if case does not count. -/
def withCase (flags : Flags) (set : CharSet) : CharSet :=
  if !flags.ignoreCase then set
  else if flags.unicode then set.anyCase
  else set.anyAsciiCase

/-- The complement of a set. Without the names of all scripts there is none, because bytes
that are no characters would belong to it. -/
def compl? (flags : Flags) (negated : Bool) (set : CharSet) : Option CharSet :=
  if !negated then some set else if flags.unicode then some set.compl else none

/-- What words are made of. -/
def alphabet (flags : Flags) : Alphabet :=
  if flags.unicode then .every else .ascii

end Flags

/-- Drops blanks and comments; a comment runs from `#` to the end of the line. -/
def dropSpace (comment : Bool) : List Char → List Char
  | [] => []
  | c :: rest =>
    if comment then dropSpace (c ≠ '\n') rest
    else if Text.isBlank c then dropSpace false rest
    else if c = '#' then dropSpace true rest
    else c :: rest

/-- What counts of the rest of a pattern. -/
def Flags.skip (flags : Flags) (rest : List Char) : List Char :=
  if flags.spaced then dropSpace false rest else rest

/-- What an escape or a plain character stands for. -/
inductive Primitive where
  /-- A character; `byte` says that it is written as a byte. -/
  | character (c : Char) (byte : Bool)
  | set (set : CharSet)
  | textStart
  | textEnd
  | wordEdge
  | notWordEdge
  | wordStart
  | wordEnd
  | wordStartHalf
  | wordEndHalf

/-- The characters that have a meaning of their own somewhere in a pattern. -/
def metaCharacters : List Char :=
  ['\\', '.', '+', '*', '?', '(', ')', '|', '[', ']', '{', '}', '^', '$', '#', '&', '-', '~']

/-- Whether a character after `\` stands for itself. -/
def isEscapable (c : Char) : Bool :=
  metaCharacters.contains c || (c.toNat < 0x80 && !c.isAlphanum && c ≠ '<' && c ≠ '>')

/-- The character with a number, if there is one. -/
def charOf? (code : Nat) : Option Char :=
  if code.isValidChar then some (.ofNat code) else none

/-- A number of hexadecimal digits. -/
def readHex? (flags : Flags) : Nat → Nat → List Char → Option (Char × List Char)
  | 0, code, rest => (charOf? code).map (·, rest)
  | _, _, [] => none
  | count + 1, code, c :: rest =>
    match Json.hexValue? c with
    | none => none
    | some digit => readHex? flags count (code * 16 + digit) (flags.skip rest)

/-- What stands between braces, up to the closing one. -/
def readBraced? (flags : Flags) : Nat → List Char → List Char →
    Option (List Char × List Char)
  | 0, _, _ => none
  | fuel + 1, taken, rest =>
    match flags.skip rest with
    | [] => none
    | c :: rest =>
      if c = '}' then some (taken.reverse, rest) else readBraced? flags fuel (c :: taken) rest

/-- The character that a number in hexadecimal stands for, after its mark. -/
def readCode? (flags : Flags) (digits : Nat) (rest : List Char) :
    Option (Primitive × List Char) :=
  match flags.skip rest with
  | [] => none
  | '{' :: rest => do
    let (code, rest) ← readBraced? flags (rest.length + 1) [] rest
    let code ← code.mapM Json.hexValue?
    if code = [] then none
    else
      let c ← charOf? (Json.ofDigits 16 code)
      return (.character c false, flags.skip rest)
  | rest => do
    let (c, rest) ← readHex? flags digits 0 rest
    return (.character c (digits = 2), rest)

/-- Splits at the first place where a separator stands. -/
def splitAt? (separator : List Char) : List Char → Option (List Char × List Char)
  | [] => none
  | c :: rest =>
    if separator.isPrefixOf (c :: rest) then some ([], (c :: rest).drop separator.length)
    else (splitAt? separator rest).map fun (front, back) => (c :: front, back)

/-- The set that the text between the braces of a property stands for, and whether its
complement is meant. -/
def propertySet? (text : List Char) : Option (CharSet × Bool) :=
  match splitAt? ['!', '='] text with
  | some (property, value) => (CharSet.valued? property value).map (·, true)
  | none =>
    match (splitAt? [':'] text).or (splitAt? ['='] text) with
    | some (property, value) => (CharSet.valued? property value).map (·, false)
    | none => (CharSet.named? text).map (·, false)

/-- The set of a property, after its mark. -/
def readProperty? (flags : Flags) (negated : Bool) (rest : List Char) :
    Option (Primitive × List Char) := do
  let (text, rest) ←
    match flags.skip rest with
    | [] => none
    | '{' :: rest => readBraced? flags (rest.length + 1) [] rest
    | c :: rest => if c = '\\' then none else some ([c], flags.skip rest)
  if !flags.unicode then none
  else
    let (set, inverted) ← propertySet? text
    let set := flags.withCase set
    return (.set (if negated != inverted then set.compl else set), rest)

/-- The special word anchor between braces, after the opening one. What cannot be one is
left to the reader of repetitions. -/
def readWordAnchor? (flags : Flags) (rest : List Char) :
    Option (Option Primitive × List Char) :=
  let isNameChar (c : Char) : Bool := Path.isLetter c || c = '-'
  match flags.skip rest with
  | [] => none
  | c :: more =>
    if !isNameChar c then some (none, '{' :: rest)
    else do
      let (name, rest) ← readBraced? flags (more.length + 2) [] (c :: more)
      match String.ofList name with
      | "start" => return (some .wordStart, rest)
      | "end" => return (some .wordEnd, rest)
      | "start-half" => return (some .wordStartHalf, rest)
      | "end-half" => return (some .wordEndHalf, rest)
      | _ => none

/-- A named set of characters, or its complement. -/
def namedSet? (flags : Flags) (negated : Bool) (unicode ascii : CharSet) :
    Option Primitive :=
  (flags.compl? negated (if flags.unicode then unicode else ascii)).map .set

/-- What an escape stands for, after its `\`. -/
def readEscape? (flags : Flags) : List Char → Option (Primitive × List Char)
  | [] => none
  | c :: rest =>
    let plain (primitive : Primitive) : Option (Primitive × List Char) :=
      some (primitive, rest)
    let set (primitive : Option Primitive) : Option (Primitive × List Char) :=
      primitive.map (·, rest)
    match c with
    | 'x' => readCode? flags 2 rest
    | 'u' => readCode? flags 4 rest
    | 'U' => readCode? flags 8 rest
    | 'p' => readProperty? flags false rest
    | 'P' => readProperty? flags true rest
    | 'd' => set (namedSet? flags false .digits .asciiDigits)
    | 'D' => set (namedSet? flags true .digits .asciiDigits)
    | 's' => set (namedSet? flags false .blanks .asciiBlanks)
    | 'S' => set (namedSet? flags true .blanks .asciiBlanks)
    | 'w' => set (namedSet? flags false .words .asciiWords)
    | 'W' => set (namedSet? flags true .words .asciiWords)
    | 'a' => plain (.character '\x07' false)
    | 'f' => plain (.character '\x0C' false)
    | 't' => plain (.character '\t' false)
    | 'n' => plain (.character '\n' false)
    | 'r' => plain (.character '\r' false)
    | 'v' => plain (.character '\x0B' false)
    | 'A' => plain .textStart
    | 'z' => plain .textEnd
    | 'B' => plain .notWordEdge
    | '<' => plain .wordStart
    | '>' => plain .wordEnd
    | 'b' =>
      match rest with
      | '{' :: more =>
        (readWordAnchor? flags more).map fun (special, rest) =>
          (special.getD .wordEdge, rest)
      | _ => plain .wordEdge
    | c => if isEscapable c then plain (.character c false) else none

/-- The set of one character, if it may stand in a set under these settings. -/
def memberSet? (flags : Flags) (c : Char) : Option CharSet :=
  if !flags.unicode && 0x7F < c.toNat then none else some (.single c)

/-- One member of a set in brackets: an escape or a plain character. -/
def readMember? (flags : Flags) : List Char → Option (Primitive × List Char)
  | '\\' :: rest => readEscape? flags rest
  | c :: rest => some (.character c false, rest)
  | [] => none

/-- The first character that is neither a blank nor the first `#`. -/
def peekPastSpace? (hashSeen : Bool) : List Char → Option Char
  | [] => none
  | c :: rest =>
    if Text.isBlank c then peekPastSpace? hashSeen rest
    else if c = '#' && !hashSeen then peekPastSpace? true rest
    else some c

/-- The character that counts for what the hyphen at the front means. Where blanks do not
count, they are passed over, and one `#` with them, but not the comment that it begins; if
nothing is left, it is the character just after the hyphen. -/
def Flags.peek? (flags : Flags) (rest : List Char) : Option Char :=
  if flags.spaced then (peekPastSpace? false rest.tail).or rest.tail.head?
  else rest.tail.head?

/-- A member of a set in brackets, or a range of characters. -/
def readRange? (flags : Flags) (rest : List Char) : Option (CharSet × List Char) := do
  let (first, rest) ← readMember? flags rest
  let rest := flags.skip rest
  let alone : Option (CharSet × List Char) :=
    match first with
    | .character c _ => (memberSet? flags c).map (·, rest)
    | .set set => some (set, rest)
    | _ => none
  match rest with
  | [] => none
  | '-' :: more =>
    let next := flags.peek? rest
    if next = some ']' || next = some '-' then alone
    else
      match flags.skip more with
      | [] => none
      | more =>
        let (last, rest) ← readMember? flags more
        match first, last with
        | .character a _, .character b _ =>
          if a.toNat ≤ b.toNat && (flags.unicode || b.toNat ≤ 0x7F) then
            some (.range a.toNat b.toNat, rest)
          else none
        | _, _ => none
  | _ => alone

/-- A named ASCII set inside brackets, after its `[`: its name and whether it is negated. -/
def readAsciiName? : List Char → Option (Bool × CharSet × List Char)
  | ':' :: rest =>
    let (negated, rest) :=
      match rest with
      | '^' :: rest => (true, rest)
      | rest => (false, rest)
    let name := rest.takeWhile (· ≠ ':')
    match rest.dropWhile (· ≠ ':') with
    | ':' :: ']' :: rest =>
      (CharSet.asciiNamed? (String.ofList name)).map fun set => (negated, set, rest)
    | _ => none
  | _ => none

/-- A set with the depth of its notation. -/
structure DeepSet where
  set : CharSet
  depth : Nat

/-- The union of members, the last of which comes first. -/
def DeepSet.ofMembers : List DeepSet → DeepSet
  | [] => ⟨.empty, 0⟩
  | [member] => member
  | members =>
    ⟨CharSet.unionOf (members.reverse.map (·.set)), 1 + (members.map (·.depth)).foldl max 0⟩

/-- The operators between two sets in brackets. -/
inductive SetOperator where
  | inter
  | diff
  | symmDiff

/-- The operator at the front of a text. -/
def readOperator? : List Char → Option (SetOperator × List Char)
  | '&' :: '&' :: rest => some (.inter, rest)
  | '-' :: '-' :: rest => some (.diff, rest)
  | '~' :: '~' :: rest => some (.symmDiff, rest)
  | _ => none

/-- Combines what stands before an operator, if there is one, with what stands after it. -/
def combine (flags : Flags) (left : Option (SetOperator × DeepSet)) (right : DeepSet) :
    DeepSet :=
  match left with
  | none => right
  | some (operator, left) =>
    let a := flags.withCase left.set
    let b := flags.withCase right.set
    let set :=
      match operator with
      | .inter => a.inter b
      | .diff => a.diff b
      | .symmDiff => a.symmDiff b
    ⟨set, 1 + max left.depth right.depth⟩

/-- The hyphens at the front of a set, which stand for themselves. -/
def readHyphens (flags : Flags) : Nat → List DeepSet → List Char → List DeepSet × List Char
  | fuel + 1, members, '-' :: rest =>
    readHyphens flags fuel (⟨.single '-', 0⟩ :: members) (flags.skip rest)
  | _, members, rest => (members, rest)

/-- What stands at the front of a set in brackets, after its `[`: whether the set is
negated, and members that would not be plain elsewhere. -/
def readOpening (flags : Flags) (rest : List Char) : Bool × List DeepSet × List Char :=
  let rest := flags.skip rest
  let (negated, rest) :=
    match rest with
    | '^' :: rest => (true, flags.skip rest)
    | rest => (false, rest)
  let (members, rest) := readHyphens flags rest.length [] rest
  match members, rest with
  | [], ']' :: rest => (negated, [⟨.single ']', 0⟩], flags.skip rest)
  | members, rest => (negated, members, rest)

/-- The rest of a set in brackets: `members` are those since the last operator, and `left`
is what stands before it. -/
def readSetWithin (flags : Flags) : Nat → Bool → List DeepSet →
    Option (SetOperator × DeepSet) → List Char → Option (DeepSet × List Char)
  | 0, _, _, _, _ => none
  | fuel + 1, negated, members, left, rest =>
    match flags.skip rest with
    | [] => none
    | ']' :: rest => do
      let whole := combine flags left (.ofMembers members)
      let set ← flags.compl? negated (flags.withCase whole.set)
      return (⟨set, 1 + whole.depth⟩, rest)
    | '[' :: rest =>
      match readAsciiName? rest with
      | some (negatedName, set, rest) => do
        let set ← flags.compl? negatedName (flags.withCase set)
        readSetWithin flags fuel negated (⟨set, 0⟩ :: members) left rest
      | none => do
        let (negatedInner, first, rest) := readOpening flags rest
        let (inner, rest) ← readSetWithin flags fuel negatedInner first none rest
        readSetWithin flags fuel negated (inner :: members) left rest
    | c :: rest =>
      match readOperator? (c :: rest) with
      | some (operator, rest) =>
        readSetWithin flags fuel negated []
          (some (operator, combine flags left (.ofMembers members))) rest
      | none => do
        let (set, rest) ← readRange? flags (c :: rest)
        readSetWithin flags fuel negated (⟨set, 0⟩ :: members) left rest

/-- A set in brackets, after its `[`. -/
def readSet? (flags : Flags) (rest : List Char) : Option (DeepSet × List Char) :=
  let (negated, members, rest) := readOpening flags rest
  readSetWithin flags (rest.length + 1) negated members none rest

end ScriptLoader.Pattern
