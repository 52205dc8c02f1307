import ScriptLoader.Proofs.Text.Pieces
import ScriptLoader.SourceMap

/-!
# Comments are dropped line by line

The comments that name source maps are looked for in a whole text, from one place to the next.
The result is still that of looking at each line on its own (`dropComments_join`): a comment starts
where a line does and never runs into the next line, and what is left of its line, which begins
with a carriage return or is empty, starts no other comment. So lines keep their numbers, which is
what the mappings of a source map count, and there is nothing left to drop.
-/

namespace ScriptLoader.SourceMap

/-- The lines of a text, which are what stands between its line feeds. -/
def lines (text : String) : List (List Char) :=
  Text.pieces '\n' text.toList

/-- The text with some lines. -/
def ofLines (lines : List (List Char)) : String :=
  String.ofList (Text.join '\n' lines)

/-- A line without the comment that it starts with: everything goes up to the first carriage
return, or all of the line. -/
def stripLine (line : List Char) : List Char :=
  if commentMark <+: line then line.dropWhile (· ≠ '\r') else line

/-- The mark of a comment stays in its line. -/
theorem lineFeed_notMem_commentMark : '\n' ∉ commentMark := by
  decide +kernel

/-- The mark of a comment starts with a slash. -/
theorem commentMark_eq : commentMark = '/' :: commentMark.tail := by
  decide +kernel

/-- A line with the mark of a comment starts with a slash. -/
theorem eq_slash_of_marked {c : Char} {rest : List Char} (marked : commentMark <+: c :: rest) :
    c = '/' := by
  rw [commentMark_eq] at marked
  exact (List.cons_prefix_cons.mp marked).1.symm

section StripLine

variable {line : List Char}

/-- What is left behind a comment is nothing, or begins with a carriage return. -/
theorem not_marked_stripLine : ¬ commentMark <+: stripLine line := by
  unfold stripLine
  split
  · intro marked
    cases left : line.dropWhile (· ≠ '\r') with
    | nil =>
      rw [left, commentMark_eq] at marked
      exact absurd (List.prefix_nil.mp marked) (List.cons_ne_nil _ _)
    | cons c rest =>
      have stopped := List.head_dropWhile_not (· ≠ '\r') (left ▸ List.cons_ne_nil c rest)
      rw [left] at marked
      simp only [left, List.head_cons, eq_slash_of_marked marked] at stopped
      cases stopped
  · next unmarked => exact unmarked

/-- Nothing is left to strip in a stripped line. -/
theorem stripLine_stripLine : stripLine (stripLine line) = stripLine line :=
  if_neg not_marked_stripLine

/-- A stripped line is still one line. -/
theorem lineFeed_notMem_stripLine (free : '\n' ∉ line) : '\n' ∉ stripLine line := by
  unfold stripLine
  split
  · exact fun kept => free ((List.dropWhile_sublist _).subset kept)
  · exact free

end StripLine

section DropComments

variable {line tail : List Char}

/-- What follows a line in a text: nothing, or a line feed and the other lines. -/
def FollowsLine (tail : List Char) : Prop :=
  ∀ c ∈ tail.head?, c = '\n'

/-- Whether a line starts with the mark of a comment does not depend on what follows it. -/
theorem marked_append_iff (follows : FollowsLine tail) :
    commentMark <+: line ++ tail ↔ commentMark <+: line := by
  refine ⟨fun marked => ?_, fun marked => marked.trans (List.prefix_append line tail)⟩
  rcases List.prefix_or_prefix_of_prefix marked (List.prefix_append line tail) with
    within | ⟨more, markEq⟩
  · exact within
  · -- The mark would have to go on with a line feed, which it does not hold.
    rw [← markEq, List.prefix_append_right_inj] at marked
    cases more with
    | nil => exact ⟨[], by simpa using markEq.symm⟩
    | cons c more =>
      obtain ⟨rest, rfl⟩ := marked
      obtain rfl := follows c rfl
      exact absurd (by simp [← markEq]) lineFeed_notMem_commentMark

/-- A comment runs up to a carriage return in its line, or up to what follows the line. -/
theorem afterComment_append (free : '\n' ∉ line) (follows : FollowsLine tail) :
    afterComment (line ++ tail) = line.dropWhile (· ≠ '\r') ++ tail := by
  induction line with
  | nil =>
    cases tail with
    | nil => rfl
    | cons c tail =>
      obtain rfl := follows c rfl
      rfl
  | cons c line ih =>
    obtain ⟨other, free⟩ := not_or.mp (mt List.mem_cons.mpr free)
    by_cases isReturn : c = '\r'
    · simp [afterComment, isReturn]
    · rw [List.cons_append, afterComment, List.dropWhile_cons_of_pos (by simp [isReturn, Ne.symm other]),
        List.dropWhile_cons_of_pos (by simpa using isReturn)]
      exact ih free

/-- A line feed stays, and the next line begins behind it. -/
theorem dropComments_lineFeed (opens : Bool) (rest : List Char) :
    dropComments opens ('\n' :: rest) = '\n' :: dropComments true rest := by
  have unmarked : ¬ commentMark <+: '\n' :: rest :=
    fun marked => absurd (eq_slash_of_marked marked) (by decide)
  rw [dropComments, if_neg (by simp [unmarked])]
  rfl

/-- Within a line no comment starts. -/
theorem dropComments_append (free : '\n' ∉ line) (tail : List Char) :
    dropComments false (line ++ tail) = line ++ dropComments false tail := by
  induction line with
  | nil => rfl
  | cons c line ih =>
    obtain ⟨other, free⟩ := not_or.mp (mt List.mem_cons.mpr free)
    have stays : decide (c = '\n') = false := decide_eq_false (Ne.symm other)
    rw [List.cons_append, dropComments, if_neg (by simp), stays, ih free, List.cons_append]

/-- A line loses the comment that it starts with, whatever follows it. -/
theorem dropComments_line (free : '\n' ∉ line) (follows : FollowsLine tail) :
    dropComments true (line ++ tail) = stripLine line ++ dropComments false tail := by
  cases line with
  | nil =>
    cases tail with
    | nil => simp [stripLine, dropComments]
    | cons c tail =>
      obtain rfl := follows c rfl
      rw [List.nil_append, dropComments_lineFeed, dropComments_lineFeed]
      rfl
  | cons c line =>
    obtain ⟨other, freeRest⟩ := not_or.mp (mt List.mem_cons.mpr free)
    have markedIff : commentMark <+: (c :: line) ++ tail ↔ commentMark <+: c :: line :=
      marked_append_iff follows
    rw [List.cons_append] at markedIff
    by_cases marked : commentMark <+: c :: line
    · have freeLeft : '\n' ∉ line.dropWhile (· ≠ '\r') :=
        fun kept => freeRest ((List.dropWhile_sublist _).subset kept)
      rw [List.cons_append, dropComments, if_pos (by simpa using markedIff.mpr marked),
        afterComment_append freeRest follows, dropComments_append freeLeft, stripLine,
        if_pos marked, List.dropWhile_cons_of_pos (by simp [eq_slash_of_marked marked])]
    · have stays : decide (c = '\n') = false := decide_eq_false (Ne.symm other)
      rw [List.cons_append, dropComments, if_neg (by simpa using mt markedIff.mp marked), stays,
        dropComments_append freeRest, stripLine, if_neg marked, List.cons_append]

/-- From lines, comments are dropped line by line. -/
theorem dropComments_join {lines : List (List Char)} (free : ∀ line ∈ lines, '\n' ∉ line) :
    dropComments true (Text.join '\n' lines) = Text.join '\n' (lines.map stripLine) := by
  induction lines with
  | nil => simp [Text.join, dropComments]
  | cons line more ih =>
    obtain ⟨lineFree, moreFree⟩ := List.forall_mem_cons.mp free
    cases more with
    | nil =>
      have follows : FollowsLine [] := by simp [FollowsLine]
      simpa [Text.join, dropComments] using dropComments_line lineFree follows
    | cons next others =>
      have follows : FollowsLine ('\n' :: Text.join '\n' (next :: others)) := by
        simp [FollowsLine]
      rw [Text.join_cons_of_ne_nil '\n' line (List.cons_ne_nil next others),
        dropComments_line lineFree follows, dropComments_lineFeed, ih moreFree]
      exact (Text.join_cons_of_ne_nil '\n' (stripLine line) (by simp)).symm

end DropComments

/-- A text is stripped line by line. -/
theorem strip_eq (text : String) : strip text = ofLines ((lines text).map stripLine) := by
  have free : ∀ line ∈ lines text, '\n' ∉ line :=
    fun _ cut => Text.separator_notMem_of_mem_pieces cut
  have dropped := dropComments_join free
  rw [lines, Text.join_pieces] at dropped
  exact congrArg String.ofList dropped

/-- The lines of a stripped text are the stripped lines, in order. -/
theorem lines_strip (text : String) : lines (strip text) = (lines text).map stripLine := by
  rw [strip_eq, ofLines, lines, String.toList_ofList]
  refine Text.pieces_join ?_ ?_
  · simpa [lines] using Text.pieces_ne_nil '\n' text.toList
  · intro line kept
    obtain ⟨whole, cut, rfl⟩ := List.mem_map.mp kept
    exact lineFeed_notMem_stripLine (Text.separator_notMem_of_mem_pieces cut)

/-- Nothing is left to strip in a stripped text. -/
theorem strip_strip (text : String) : strip (strip text) = strip text := by
  rw [strip_eq (strip text), lines_strip, List.map_map, strip_eq text]
  exact congrArg ofLines (List.map_congr_left fun _ _ => stripLine_stripLine)

end ScriptLoader.SourceMap
