import ScriptLoader.Pattern.Matching

/-!
# What a pattern describes, and a text without it

`Node.Describes` says which parts of a text meet the demands of a node; anchors look at the
characters on both sides of a part. `Removal` is the text that is left when the described parts
are taken out from left to right, each as long as it can be, where a part never is empty. It says
nothing of how they are found. What a pattern prefers is not modelled: for a pattern that ends in a
greedy repetition of single characters it is the longest part.
-/

namespace ScriptLoader.Pattern

/-- The neighbour of a place, if there is a character. -/
def Neighbour.ofChar? : Option Char → Neighbour
  | .none => .none
  | .some c => .of c

namespace Node

mutual

/-- A node describes the part between what stands before and after it. -/
inductive Describes : Node → List Char → List Char → List Char → Prop where
  | empty {before after : List Char} : Describes .empty before [] after
  | text {chars before after : List Char} : Describes (.text chars) before chars after
  | set {ofBytes : Bool} {members : CharSet} {c : Char} {before after : List Char}
      (member : members.has c = true) : Describes (.set ofBytes members) before [c] after
  | anchor {anchor : Anchor} {before after : List Char}
      (holds : anchor.holds (.ofChar? before.getLast?) (.ofChar? after.head?) = true) :
      Describes (.anchor anchor) before [] after
  | sequence {parts : List Node} {before part after : List Char}
      (all : DescribeInTurn parts before part after) :
      Describes (.sequence parts) before part after
  | choice {branches : List Node} {branch : Node} {before part after : List Char}
      (among : branch ∈ branches) (described : Describes branch before part after) :
      Describes (.choice branches) before part after
  | repeated {body : Node} {least times : Nat} {most : Option Nat} {greedy : Bool}
      {before part after : List Char} (enough : least ≤ times)
      (notTooMany : ∀ limit ∈ most, times ≤ limit)
      (all : DescribeInTurn (List.replicate times body) before part after) :
      Describes (.repeated body least most greedy) before part after
  | group {number : Nat} {body : Node} {before part after : List Char}
      (described : Describes body before part after) :
      Describes (.group number body) before part after

/-- Nodes describe pieces of a part, one after the other. -/
inductive DescribeInTurn : List Node → List Char → List Char → List Char → Prop where
  | nil {before after : List Char} : DescribeInTurn [] before [] after
  | cons {node : Node} {nodes : List Node} {before piece pieces after : List Char}
      (first : Describes node before piece (pieces ++ after))
      (later : DescribeInTurn nodes (before ++ piece) pieces after) :
      DescribeInTurn (node :: nodes) before (piece ++ pieces) after

end

end Node

/-- From the text behind a place, `kept` is left without the parts that a node describes. -/
inductive Removal (node : Node) : List Char → List Char → List Char → Prop where
  | finish {before : List Char} : Removal node before [] []
  | keep {before rest kept : List Char} {c : Char}
      (undescribed : ∀ part after, c :: rest = part ++ after → ¬ node.Describes before part after)
      (later : Removal node (before ++ [c]) rest kept) :
      Removal node before (c :: rest) (c :: kept)
  | remove {before part after kept : List Char} (nonempty : part ≠ [])
      (described : node.Describes before part after)
      (longest : ∀ other behind, part ++ after = other ++ behind →
        node.Describes before other behind → other.length ≤ part.length)
      (later : Removal node (before ++ part) after kept) :
      Removal node before (part ++ after) kept

section Single

open Node

variable {before part after : List Char}

/-- A text describes itself. -/
theorem describes_text_iff {chars : List Char} :
    (Node.text chars).Describes before part after ↔ part = chars := by
  constructor
  · rintro ⟨⟩
    rfl
  · rintro rfl
    exact .text

/-- An anchor describes the empty part where it holds. -/
theorem describes_anchor_iff {anchor : Anchor} :
    (Node.anchor anchor).Describes before part after ↔ part = [] ∧
      anchor.holds (.ofChar? before.getLast?) (.ofChar? after.head?) = true := by
  constructor
  · intro described
    cases described with
    | anchor holds => exact ⟨rfl, holds⟩
  · rintro ⟨rfl, holds⟩
    exact .anchor holds

/-- A sequence describes what its parts describe one after the other. -/
theorem describes_sequence_iff {parts : List Node} :
    (Node.sequence parts).Describes before part after ↔
      DescribeInTurn parts before part after := by
  constructor
  · rintro ⟨⟩
    assumption
  · exact .sequence

/-- No nodes describe the empty part. -/
theorem describeInTurn_nil_iff : DescribeInTurn [] before part after ↔ part = [] := by
  constructor
  · rintro ⟨⟩
    rfl
  · rintro rfl
    exact .nil

/-- Nodes describe a part if it can be cut into one for the first and one for the others. -/
theorem describeInTurn_cons_iff {node : Node} {nodes : List Node} :
    DescribeInTurn (node :: nodes) before part after ↔
      ∃ piece pieces, part = piece ++ pieces ∧ node.Describes before piece (pieces ++ after) ∧
        DescribeInTurn nodes (before ++ piece) pieces after := by
  constructor
  · intro all
    cases all with
    | cons first later => exact ⟨_, _, rfl, first, later⟩
  · rintro ⟨piece, pieces, rfl, first, later⟩
    exact .cons first later

/-- As many characters of a set. -/
theorem describeInTurn_replicate_set_iff {times : Nat} {ofBytes : Bool} {members : CharSet} :
    DescribeInTurn (List.replicate times (.set ofBytes members)) before part after ↔
      part.length = times ∧ ∀ c ∈ part, members.has c = true := by
  constructor
  · intro all
    induction times generalizing before part with
    | zero =>
      obtain rfl := describeInTurn_nil_iff.mp all
      exact ⟨rfl, by simp⟩
    | succ times ih =>
      obtain ⟨piece, pieces, rfl, ⟨⟩, later⟩ := describeInTurn_cons_iff.mp all
      obtain ⟨lengthEq, rest⟩ := ih later
      exact ⟨congrArg (· + 1) lengthEq, List.forall_mem_cons.mpr ⟨‹_›, rest⟩⟩
  · rintro ⟨rfl, held⟩
    induction part generalizing before with
    | nil => exact .nil
    | cons c part ih =>
      obtain ⟨member, rest⟩ := List.forall_mem_cons.mp held
      exact .cons (.set member) (ih rest)

/-- Any number of characters of a set. -/
theorem describes_repeated_set_iff {ofBytes greedy : Bool} {members : CharSet} :
    (Node.repeated (.set ofBytes members) 0 none greedy).Describes before part after ↔
      ∀ c ∈ part, members.has c = true := by
  constructor
  · intro described
    cases described with
    | repeated _ _ all => exact (describeInTurn_replicate_set_iff.mp all).2
  · intro held
    exact .repeated (Nat.zero_le _) (by simp) (describeInTurn_replicate_set_iff.mpr ⟨rfl, held⟩)

end Single

/-- What is left is told by the text: no described part can be kept, and of two described parts
that are removed at a place neither is longer. -/
theorem Removal.unique {node : Node} {before rest kept other : List Char}
    (removal : Removal node before rest kept) (removal' : Removal node before rest other) :
    kept = other := by
  induction removal generalizing other with
  | finish =>
    generalize textEq : ([] : List Char) = text at removal'
    cases removal' with
    | finish => rfl
    | keep => cases textEq
    | remove nonempty => exact absurd (List.append_eq_nil_iff.mp textEq.symm).1 nonempty
  | @keep before rest kept c undescribed later ih =>
    generalize textEq : c :: rest = text at removal'
    cases removal' with
    | finish => cases textEq
    | keep _ later' =>
      obtain ⟨rfl, rfl⟩ := List.cons.inj textEq
      rw [ih later']
    | remove _ described => exact absurd described (undescribed _ _ textEq)
  | @remove before part after kept nonempty described longest later ih =>
    generalize textEq : part ++ after = text at removal'
    cases removal' with
    | finish => exact absurd (List.append_eq_nil_iff.mp textEq).1 nonempty
    | keep undescribed => exact absurd described (undescribed _ _ textEq.symm)
    | remove _ described' longest' later' =>
      have lengthEq := Nat.le_antisymm (longest' _ _ textEq.symm described)
        (longest _ _ textEq described')
      obtain ⟨rfl, rfl⟩ := List.append_inj textEq lengthEq
      exact ih later'

end ScriptLoader.Pattern
