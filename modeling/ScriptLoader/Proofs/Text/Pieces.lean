import ScriptLoader.Text.Pieces

/-!
# Cutting and joining

Pieces without separators are found again when they are joined and cut. Together with
`Text.join_pieces` this makes a text and the list of its pieces two forms of one thing.
-/

namespace ScriptLoader.Text

variable {α : Type} [DecidableEq α] {separator : α}

/-- A piece holds no separator. -/
theorem separator_notMem_of_mem_pieces {list piece : List α}
    (cut : piece ∈ pieces separator list) : separator ∉ piece := by
  induction list generalizing piece with
  | nil =>
    obtain rfl := List.mem_singleton.mp cut
    simp
  | cons a rest ih =>
    by_cases found : a = separator
    · simp only [pieces, found, if_true, List.mem_cons] at cut
      rcases cut with rfl | later
      · simp
      · exact ih later
    · simp only [pieces, found, if_false] at cut
      split at cut
      · obtain rfl := List.mem_singleton.mp cut
        simpa using Ne.symm found
      · next first more piecesEq =>
        rw [piecesEq] at ih
        rcases List.mem_cons.mp cut with rfl | later
        · have firstFree := ih (List.mem_cons_self ..)
          simpa using ⟨Ne.symm found, firstFree⟩
        · exact ih (List.mem_cons_of_mem _ later)

/-- What a piece holds is in the text. -/
theorem mem_of_mem_pieces {list piece : List α} {a : α} (cut : piece ∈ pieces separator list)
    (held : a ∈ piece) : a ∈ list := by
  induction list generalizing piece with
  | nil =>
    obtain rfl := List.mem_singleton.mp cut
    exact held
  | cons b rest ih =>
    by_cases found : b = separator
    · simp only [pieces, found, if_true, List.mem_cons] at cut
      rcases cut with rfl | later
      · cases held
      · exact List.mem_cons_of_mem b (ih later held)
    · simp only [pieces, found, if_false] at cut
      split at cut
      · obtain rfl := List.mem_singleton.mp cut
        obtain rfl := List.mem_singleton.mp held
        exact List.mem_cons_self ..
      · next first more piecesEq =>
        rw [piecesEq] at ih
        rcases List.mem_cons.mp cut with rfl | later
        · rcases List.mem_cons.mp held with rfl | inFirst
          · exact List.mem_cons_self ..
          · exact List.mem_cons_of_mem b (ih (List.mem_cons_self ..) inFirst)
        · exact List.mem_cons_of_mem b (ih (List.mem_cons_of_mem _ later) held)

/-- A text without separators is one piece. -/
theorem pieces_of_notMem {list : List α} (free : separator ∉ list) :
    pieces separator list = [list] := by
  induction list with
  | nil => rfl
  | cons a rest ih =>
    obtain ⟨different, restFree⟩ := not_or.mp (mt List.mem_cons.mpr free)
    simp only [pieces, if_neg (Ne.symm different), ih restFree]

/-- A separator ends a piece, wherever it is. -/
theorem pieces_append (front back : List α) :
    pieces separator (front ++ separator :: back) =
      pieces separator front ++ pieces separator back := by
  induction front with
  | nil => simp [pieces]
  | cons a rest ih =>
    by_cases found : a = separator
    · simp [pieces, found, ih]
    · obtain ⟨first, more, piecesEq⟩ := List.exists_cons_of_ne_nil (pieces_ne_nil separator rest)
      simp [pieces, found, ih, piecesEq]

/-- The first separator ends the first piece. -/
theorem pieces_append_cons {piece : List α} (free : separator ∉ piece) (rest : List α) :
    pieces separator (piece ++ separator :: rest) = piece :: pieces separator rest := by
  rw [pieces_append, pieces_of_notMem free, List.singleton_append]

/-- Joined pieces are found again, if there are any. -/
theorem pieces_join {list : List (List α)} (nonempty : list ≠ [])
    (free : ∀ piece ∈ list, separator ∉ piece) : pieces separator (join separator list) = list := by
  induction list with
  | nil => exact absurd rfl nonempty
  | cons piece more ih =>
    obtain ⟨pieceFree, moreFree⟩ := List.forall_mem_cons.mp free
    cases more with
    | nil => exact pieces_of_notMem pieceFree
    | cons next others =>
      rw [join_cons_of_ne_nil separator piece (List.cons_ne_nil next others),
        pieces_append_cons pieceFree, ih (List.cons_ne_nil next others) moreFree]

omit [DecidableEq α] in
/-- A joined text holds separators and what its pieces hold. -/
theorem mem_join {list : List (List α)} {a : α} (held : a ∈ join separator list) :
    a = separator ∨ ∃ piece ∈ list, a ∈ piece := by
  induction list with
  | nil => cases held
  | cons piece more ih =>
    cases more with
    | nil => exact .inr ⟨piece, List.mem_cons_self .., held⟩
    | cons next others =>
      rw [join_cons_of_ne_nil separator piece (List.cons_ne_nil next others)] at held
      rcases List.mem_append.mp held with inPiece | behind
      · exact .inr ⟨piece, List.mem_cons_self .., inPiece⟩
      · rcases List.mem_cons.mp behind with rfl | inMore
        · exact .inl rfl
        · rcases ih inMore with isSeparator | ⟨other, among, inOther⟩
          · exact .inl isSeparator
          · exact .inr ⟨other, List.mem_cons_of_mem piece among, inOther⟩

omit [DecidableEq α] in
/-- What follows the last piece follows the text. -/
theorem join_concat_append (list : List (List α)) (last ending : List α) :
    join separator (list ++ [last ++ ending]) = join separator (list ++ [last]) ++ ending := by
  induction list with
  | nil => rfl
  | cons piece more ih =>
    simp only [List.cons_append]
    rw [join_cons_of_ne_nil separator piece (by simp),
      join_cons_of_ne_nil separator piece (by simp), ih, List.append_assoc, List.cons_append]

end ScriptLoader.Text
