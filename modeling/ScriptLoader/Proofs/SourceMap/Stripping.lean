import Mathlib.Data.List.TakeWhile
import ScriptLoader.Proofs.Pattern.Removal
import ScriptLoader.Proofs.SourceMap.Lines
import ScriptLoader.Proofs.SourceMap.Reading

/-!
# Stripping an output

The comments that name source maps are those that `commentPattern` describes. `dropComments` takes
out what this pattern describes (`removal_dropComments`), and it works line by line
(`strip_eq`). So an output with a source map keeps its lines, each at its place and, but for the
comments, as it is.
-/

namespace ScriptLoader.SourceMap

open Pattern Pattern.Node

/-- The pattern of the comments that name source maps. -/
def commentPattern : String := "(?m)^//# sourceMappingURL=[^\\r\\n]*"

/-- The characters that a comment goes on with. -/
def commentChars : CharSet :=
  ⟨[⟨0, 9⟩, ⟨11, 12⟩, ⟨14, 0xD7FF⟩, ⟨0xE000, 0x10FFFF⟩]⟩

/-- The mark of a comment at the start of a line, and what follows it in the line. -/
def commentNode : Node :=
  .sequence [.anchor .lineStart, .text commentMark, .repeated (.set false commentChars) 0 none true]

/-- The pattern of comments is read as a start of a line, the mark and what follows in the line. -/
theorem parse?_commentPattern : Node.parse? commentPattern = some commentNode :=
  rfl

/-- A comment goes on with every character that does not end it. -/
theorem has_commentChars_iff {c : Char} : commentChars.has c = true ↔ c ≠ '\r' ∧ c ≠ '\n' := by
  have isCode : c.toNat < 0xD800 ∨ 0xDFFF < c.toNat ∧ c.toNat < 0x110000 := c.valid
  have returnIff : c = '\r' ↔ c.toNat = 13 := Char.toNat_inj.symm
  have feedIff : c = '\n' ↔ c.toNat = 10 := Char.toNat_inj.symm
  rw [ne_eq, ne_eq, returnIff, feedIff]
  simp [commentChars, CharSet.has, Interval.contains]
  omega

/-- A place where a line starts: the text starts there, or a line feed comes before. -/
def StartsLine (before : List Char) : Prop :=
  ∀ c ∈ before.getLast?, c = '\n'

/-- A part that a comment does not run out of: neither a carriage return nor a line feed. -/
def StaysInLine (part : List Char) : Prop :=
  ∀ c ∈ part, c ≠ '\r' ∧ c ≠ '\n'

section Describes

variable {before part after : List Char}

/-- The anchor of the pattern holds where a line starts. -/
theorem holds_lineStart_iff :
    Anchor.lineStart.holds (.ofChar? before.getLast?) (.ofChar? after.head?) = true ↔
      StartsLine before := by
  unfold StartsLine
  cases before.getLast? <;> simp [Anchor.holds, Neighbour.ofChar?, Neighbour.none, Neighbour.of]

/-- The mark has no line break. -/
theorem staysInLine_commentMark : StaysInLine commentMark := by
  have checked : (commentMark.all fun c => c ≠ '\r' && c ≠ '\n') = true := by decide +kernel
  simpa [StaysInLine] using checked

/-- A comment starts where a line does, with its mark, and stays in its line. -/
theorem describes_commentNode_iff :
    commentNode.Describes before part after ↔
      StartsLine before ∧ commentMark <+: part ∧ StaysInLine part := by
  simp only [commentNode, describes_sequence_iff, describeInTurn_cons_iff, describeInTurn_nil_iff,
    describes_anchor_iff, describes_text_iff, describes_repeated_set_iff, has_commentChars_iff,
    holds_lineStart_iff]
  constructor
  · rintro ⟨_, _, rfl, ⟨rfl, starts⟩, _, _, rfl, rfl, chars, _, rfl, goesOn, rfl⟩
    rw [List.nil_append, List.append_nil]
    exact ⟨starts, List.prefix_append _ _,
      List.forall_mem_append.mpr ⟨staysInLine_commentMark, goesOn⟩⟩
  · rintro ⟨starts, ⟨chars, rfl⟩, stays⟩
    exact ⟨[], _, rfl, ⟨rfl, starts⟩, commentMark, chars, rfl, rfl, chars, [], by simp,
      (List.forall_mem_append.mp stays).2, rfl⟩

end Describes

section Comment

variable {part text : List Char}

/-- The part of a text that `afterComment` leaves out. -/
def commentAt (text : List Char) : List Char :=
  text.takeWhile fun c => c ≠ '\r' && c ≠ '\n'

/-- A comment and what is behind it make up the text. -/
theorem commentAt_append_afterComment (text : List Char) :
    commentAt text ++ afterComment text = text :=
  List.takeWhile_append_dropWhile

/-- A comment has no line break. -/
theorem staysInLine_commentAt : StaysInLine (commentAt text) :=
  fun _ member => by simpa using List.mem_takeWhile_imp member

/-- Nothing that stays in the line is longer. -/
theorem prefix_commentAt (begins : part <+: text) (stays : StaysInLine part) :
    part <+: commentAt text := by
  obtain ⟨behind, rfl⟩ := begins
  rw [commentAt, List.takeWhile_append_of_pos fun c member => by simpa using stays c member]
  exact List.prefix_append _ _

/-- Behind what is left out no line starts. -/
theorem not_startsLine_append {before : List Char} (nonempty : part ≠ [])
    (stays : StaysInLine part) : ¬ StartsLine (before ++ part) := by
  intro starts
  have ends : (before ++ part).getLast? = some (part.getLast nonempty) := by
    rw [List.getLast?_append, List.getLast?_eq_some_getLast nonempty, Option.some_or]
  exact (stays _ (List.getLast_mem nonempty)).2 (starts _ ends)

end Comment

/-- What the pattern describes is dropped, from left to right. -/
theorem removal_dropComments {opens : Bool} {before text : List Char}
    (opensIff : opens = true ↔ StartsLine before) :
    Removal commentNode before text (dropComments opens text) := by
  fun_induction dropComments opens text generalizing before with
  | case1 => exact .finish
  | case2 opens c rest marked ih =>
    simp only [Bool.and_eq_true, List.isPrefixOf_iff_prefix] at marked
    obtain ⟨isOpen, marked⟩ := marked
    have begins := prefix_commentAt marked staysInLine_commentMark
    have nonempty : commentAt (c :: rest) ≠ [] := fun none =>
      absurd (List.prefix_nil.mp (none ▸ begins)) (by decide +kernel)
    have goesOn : afterComment (c :: rest) = afterComment rest :=
      List.dropWhile_cons_of_pos (by simp [eq_slash_of_marked marked])
    rw [← commentAt_append_afterComment (c :: rest), goesOn]
    refine .remove nonempty ?_ ?_ (ih ?_)
    · exact describes_commentNode_iff.mpr ⟨opensIff.mp isOpen, begins, staysInLine_commentAt⟩
    · intro other behind splits described
      rw [← goesOn, commentAt_append_afterComment] at splits
      obtain ⟨-, -, stays⟩ := describes_commentNode_iff.mp described
      exact (prefix_commentAt ⟨behind, splits.symm⟩ stays).length_le
    · simp [not_startsLine_append nonempty staysInLine_commentAt]
  | case3 opens c rest unmarked ih =>
    simp only [Bool.and_eq_true, List.isPrefixOf_iff_prefix] at unmarked
    refine .keep ?_ (ih (by simp [StartsLine]))
    intro part after splits described
    obtain ⟨starts, begins, -⟩ := describes_commentNode_iff.mp described
    exact unmarked ⟨opensIff.mpr starts, splits ▸ begins.trans (List.prefix_append part after)⟩

/-- An output and what is left of it without the comments that name source maps. -/
structure Stripping (output stripped : String) : Prop where
  /-- It is what is left if the parts are removed that the pattern of these comments describes. -/
  removed : ∃ node, Node.parse? commentPattern = some node ∧
    ∀ kept, Removal node [] output.toList kept ↔ kept = stripped.toList
  /-- The result is the one of stripping each line on its own. -/
  eq_ofLines : stripped = ofLines ((lines output).map stripLine)
  /-- The lines are the stripped ones, each at its place. -/
  lines_eq : lines stripped = (lines output).map stripLine
  length_eq : (lines stripped).length = (lines output).length
  unmarked : ∀ line ∈ lines stripped, ¬ commentMark <+: line

/-- What is left of an output is what is left of each of its lines. -/
theorem stripping_strip (output : String) : Stripping output (strip output) where
  removed := by
    have removal : Removal commentNode [] output.toList (strip output).toList := by
      rw [strip, String.toList_ofList]
      exact removal_dropComments (by simp [StartsLine])
    refine ⟨commentNode, parse?_commentPattern, fun kept => ⟨fun other => ?_, ?_⟩⟩
    · exact other.unique removal
    · rintro rfl
      exact removal
  eq_ofLines := strip_eq output
  lines_eq := lines_strip output
  length_eq := by rw [lines_strip, List.length_map]
  unmarked := by
    intro line kept
    rw [lines_strip] at kept
    obtain ⟨whole, -, rfl⟩ := List.mem_map.mp kept
    exact not_marked_stripLine

/-- An output with a valid source map is stripped of its comments, and is left as it is when that
is done again. -/
theorem make_strips_lines {mapText : String} {map : SourceMap} (valid : ofText mapText = .ok map)
    (output path content request : String) :
    ∃ stripped,
      make (some mapText) output path content request =
        .ok (stripped, some (map.attach request path content)) ∧
      Stripping output stripped ∧
      make (some mapText) stripped path content request =
        .ok (stripped, some (map.attach request path content)) := by
  refine ⟨strip output, make_of_accepted valid, stripping_strip output, ?_⟩
  rw [make_of_accepted valid, strip_strip]

/-- An output with a comment at both ends, comments in lines that follow one another, one before a
carriage return in the middle of a line, and one in quotes, which stays. -/
def manyComments : String :=
  "//# sourceMappingURL=a\r\n//# sourceMappingURL=b\n//# sourceMappingURL=c\rvar d;\n" ++
    "'//# sourceMappingURL=e'\n//# sourceMappingURL=f"

/-- Of several comments, those at the starts of lines are left out, and a second pass finds no
more. -/
theorem make_strips_many_comments :
    ∃ map, ofText "\x7b\"version\":3\x7d" = .ok map ∧ ∃ stripped,
      make (some "\x7b\"version\":3\x7d") manyComments "/a.ts" "" "a.ts" =
        .ok (stripped, some (map.attach "a.ts" "/a.ts" "")) ∧
      Stripping manyComments stripped ∧
      make (some "\x7b\"version\":3\x7d") stripped "/a.ts" "" "a.ts" =
        .ok (stripped, some (map.attach "a.ts" "/a.ts" "")) := by
  have reads : (ofText "\x7b\"version\":3\x7d").toOption.map (·.version) = some 3 := by
    decide +kernel
  obtain ⟨map, valid, -⟩ := exists_ok_of_map_toOption reads
  exact ⟨map, valid, make_strips_lines valid manyComments "/a.ts" "" "a.ts"⟩

example : strip manyComments = "\r\n\n\rvar d;\n'//# sourceMappingURL=e'\n" := by
  decide +kernel

end ScriptLoader.SourceMap
