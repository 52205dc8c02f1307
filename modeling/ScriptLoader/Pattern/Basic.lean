import ScriptLoader.Pattern.CharSet

/-!
# Patterns

What a pattern demands of a text, once its notation is read: texts, characters of sets,
anchors between characters, and their combinations. Nodes are put together by functions that
keep them simple (`sequenceOf`, `choiceOf`, `repeatedOf`, `ofSet`): what stands side by side is
joined, what can only be empty is dropped, and a choice between single characters is a set.
-/

namespace ScriptLoader.Pattern

/-- What words are made of. -/
inductive Alphabet where
  /-- The characters of words of every script. -/
  | every
  /-- The characters of words in ASCII. -/
  | ascii
  deriving DecidableEq, Repr

/-- A condition on a place between two characters of a text, or at its ends. -/
inductive Anchor where
  | textStart
  | textEnd
  /-- Lines that end in a line feed. -/
  | lineStart
  | lineEnd
  /-- Lines that end in a line feed, a carriage return or both. -/
  | anyLineStart
  | anyLineEnd
  /-- A word begins or ends. -/
  | wordEdge (alphabet : Alphabet)
  | notWordEdge (alphabet : Alphabet)
  | wordStart (alphabet : Alphabet)
  | wordEnd (alphabet : Alphabet)
  /-- No word comes before. -/
  | wordStartHalf (alphabet : Alphabet)
  /-- No word comes after. -/
  | wordEndHalf (alphabet : Alphabet)
  deriving DecidableEq, Repr

/-- What a pattern demands. -/
inductive Node where
  | empty
  /-- These characters, of which there is at least one. -/
  | text (chars : List Char)
  /-- A character of a set, which was named among all characters or among bytes. -/
  | set (ofBytes : Bool) (members : CharSet)
  | anchor (anchor : Anchor)
  | sequence (parts : List Node)
  | choice (branches : List Node)
  | repeated (body : Node) (least : Nat) (most : Option Nat) (greedy : Bool)
  /-- A part whose place in the text is noted under a number of its own. -/
  | group (number : Nat) (body : Node)

namespace Node

mutual

/-- Whether two nodes are built in the same way. -/
def same : Node → Node → Bool
  | empty, empty => true
  | text a, text b => a = b
  | set ofBytes a, set ofBytes' b => ofBytes = ofBytes' && a = b
  | anchor a, anchor b => a = b
  | sequence a, sequence b => sameAll a b
  | choice a, choice b => sameAll a b
  | repeated a least most greedy, repeated b least' most' greedy' =>
    least = least' && most = most' && greedy = greedy' && a.same b
  | group number a, group number' b => number = number' && a.same b
  | _, _ => false

/-- Whether the nodes of two lists are the same one by one. -/
def sameAll : List Node → List Node → Bool
  | [], [] => true
  | a :: as, b :: bs => a.same b && sameAll as bs
  | _, _ => false

end

/-- The sum of two lengths, if both are known. -/
def lengthSum (a b : Option Nat) : Option Nat :=
  match a, b with
  | some a, some b => some (a + b)
  | _, _ => none

/-- The one of two lengths that a function chooses, if both are known. -/
def lengthBy (choose : Nat → Nat → Nat) (a b : Option Nat) : Option Nat :=
  match a, b with
  | some a, some b => some (choose a b)
  | _, _ => none

mutual

/-- The number of characters that a node demands at least. It is unknown where a part
cannot be satisfied. -/
def shortest : Node → Option Nat
  | empty => some 0
  | text chars => some chars.length
  | set _ members => if members = .empty then none else some 1
  | anchor _ => some 0
  | sequence parts => shortestOfAll parts
  | choice branches => shortestOfAny branches
  | repeated body least _ _ => body.shortest.map (· * least)
  | group _ body => body.shortest

/-- The least number of characters for nodes one after the other. -/
def shortestOfAll : List Node → Option Nat
  | [] => some 0
  | part :: rest => lengthSum part.shortest (shortestOfAll rest)

/-- The least number of characters for one of some nodes. -/
def shortestOfAny : List Node → Option Nat
  | [] => none
  | [branch] => branch.shortest
  | branch :: rest => lengthBy min branch.shortest (shortestOfAny rest)

end

mutual

/-- The number of characters that a node demands at most. It is unknown where there is no
limit, or where a part cannot be satisfied. -/
def longest : Node → Option Nat
  | empty => some 0
  | text chars => some chars.length
  | set _ members => if members = .empty then none else some 1
  | anchor _ => some 0
  | sequence parts => longestOfAll parts
  | choice branches => longestOfAny branches
  | repeated body _ most _ => most.bind fun most => body.longest.map (· * most)
  | group _ body => body.longest

/-- The greatest number of characters for nodes one after the other. -/
def longestOfAll : List Node → Option Nat
  | [] => some 0
  | part :: rest => lengthSum part.longest (longestOfAll rest)

/-- The greatest number of characters for one of some nodes. -/
def longestOfAny : List Node → Option Nat
  | [] => none
  | [branch] => branch.longest
  | branch :: rest => lengthBy max branch.longest (longestOfAny rest)

end

mutual

/-- Whether a node demands an anchor before any character. -/
def opensWith (wanted : Anchor) : Node → Bool
  | anchor a => a = wanted
  | sequence parts => anyOpensWith wanted parts
  | choice branches => allOpenWith wanted branches
  | repeated body least _ _ => 0 < least && body.opensWith wanted
  | group _ body => body.opensWith wanted
  | _ => false

/-- Whether one of the nodes before the first character demands an anchor. -/
def anyOpensWith (wanted : Anchor) : List Node → Bool
  | [] => false
  | part :: rest =>
    part.opensWith wanted || (part.longest = some 0 && anyOpensWith wanted rest)

/-- Whether each of some nodes demands an anchor before any character. -/
def allOpenWith (wanted : Anchor) : List Node → Bool
  | [] => true
  | branch :: rest => branch.opensWith wanted && allOpenWith wanted rest

end

mutual

/-- Whether a node demands an anchor after all characters. -/
def closesWith (wanted : Anchor) : Node → Bool
  | anchor a => a = wanted
  | sequence parts => anyClosesWith wanted parts
  | choice branches => allCloseWith wanted branches
  | repeated body least _ _ => 0 < least && body.closesWith wanted
  | group _ body => body.closesWith wanted
  | _ => false

/-- Whether one of the nodes after the last character demands an anchor. -/
def anyClosesWith (wanted : Anchor) : List Node → Bool
  | [] => false
  | part :: rest =>
    anyClosesWith wanted rest || (longestOfAll rest = some 0 && part.closesWith wanted)

/-- Whether each of some nodes demands an anchor after all characters. -/
def allCloseWith (wanted : Anchor) : List Node → Bool
  | [] => true
  | branch :: rest => branch.closesWith wanted && allCloseWith wanted rest

end

/-- A character of a set. A set of one character is a text, and an empty one is the same
however it was named. -/
def ofSet (ofBytes : Bool) (members : CharSet) : Node :=
  if members = .empty then .set true .empty
  else
    match members.only? with
    | some c => .text [c]
    | none => .set ofBytes members

/-- The nodes that a node stands for in a sequence. -/
def parts : Node → List Node
  | empty => []
  | sequence parts => parts
  | node => [node]

/-- Joins texts that follow each other. -/
def joinTexts : List Node → List Node
  | [] => []
  | text chars :: rest =>
    match joinTexts rest with
    | text more :: rest => text (chars ++ more) :: rest
    | rest => text chars :: rest
  | node :: rest => node :: joinTexts rest

/-- One after the other. -/
def sequenceOf (nodes : List Node) : Node :=
  match joinTexts (nodes.flatMap parts) with
  | [] => .empty
  | [node] => node
  | parts => .sequence parts

/-- The nodes that a node stands for in a choice. -/
def branches : Node → List Node
  | choice branches => branches
  | node => [node]

/-- The set of the characters that satisfy a node, if it demands just one character. -/
def oneOf? : Node → Option CharSet
  | set _ members => some members
  | text [c] => some (.single c)
  | _ => none

/-- One of several, none of which is a choice itself. -/
def plainChoiceOf (branches : List Node) : Node :=
  match branches with
  | [] => .set true .empty
  | [node] => node
  | branches =>
    match branches.mapM oneOf? with
    | some sets => .ofSet false (.unionOf sets)
    | none => .choice branches

/-- The parts of a sequence. -/
def sequenceParts? : Node → Option (List Node)
  | sequence parts => some parts
  | _ => none

/-- The nodes at the front of two lists that are the same. -/
def commonFront : List Node → List Node → List Node
  | a :: as, b :: bs => if a.same b then a :: commonFront as bs else []
  | _, _ => []

/-- The nodes with which all of some lists begin. -/
def frontOf : List (List Node) → List Node
  | [] => []
  | first :: rest => rest.foldl commonFront first

/-- One of several. Where all are sequences that begin alike, the beginning stands before
the choice. -/
def choiceOf (nodes : List Node) : Node :=
  let branches := nodes.flatMap branches
  match branches.mapM sequenceParts? with
  | none => plainChoiceOf branches
  | some lists =>
    let front := frontOf lists
    if front.isEmpty || lists.length < 2 then plainChoiceOf branches
    else
      let ends := lists.map fun parts => sequenceOf (parts.drop front.length)
      sequenceOf (front ++ [plainChoiceOf (ends.flatMap Node.branches)])

/-- A repetition. What can only be empty need not be repeated more than once. -/
def repeatedOf (body : Node) (least : Nat) (most : Option Nat) (greedy : Bool) : Node :=
  let (least, most) :=
    if body.longest = some 0 then (min least 1, some (min (most.getD 1) 1)) else (least, most)
  if most = some 0 then .empty
  else if least = 1 && most = some 1 then body
  else .repeated body least most greedy

end Node

end ScriptLoader.Pattern
