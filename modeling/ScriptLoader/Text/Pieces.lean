/-!
# Pieces between separators

Cutting a list at every separator, and putting the pieces together again.
-/

namespace ScriptLoader.Text

variable {α : Type}

/-- The pieces of a list between its separators. There is one more of them than there are
separators, so the empty list has one empty piece. -/
def pieces [DecidableEq α] (separator : α) : List α → List (List α)
  | [] => [[]]
  | a :: rest =>
    if a = separator then [] :: pieces separator rest
    else
      match pieces separator rest with
      | [] => [[a]]
      | piece :: more => (a :: piece) :: more

/-- Pieces with separators between them. -/
def join (separator : α) : List (List α) → List α
  | [] => []
  | [piece] => piece
  | piece :: more => piece ++ separator :: join separator more

/-- There is one piece at least. -/
theorem pieces_ne_nil [DecidableEq α] (separator : α) (list : List α) :
    pieces separator list ≠ [] := by
  cases list with
  | nil => simp [pieces]
  | cons a rest =>
    by_cases h : a = separator
    · simp [pieces, h]
    · simp only [pieces, h, if_false]
      split <;> simp

/-- A separator stands behind the first piece if others follow. -/
theorem join_cons_of_ne_nil (separator : α) (piece : List α) {more : List (List α)}
    (h : more ≠ []) :
    join separator (piece :: more) = piece ++ separator :: join separator more := by
  cases more with
  | nil => exact absurd rfl h
  | cons _ _ => rfl

/-- Cutting loses nothing. -/
theorem join_pieces [DecidableEq α] (separator : α) (list : List α) :
    join separator (pieces separator list) = list := by
  induction list with
  | nil => rfl
  | cons a rest ih =>
    by_cases h : a = separator
    · simp only [pieces, h, if_true]
      rw [join_cons_of_ne_nil separator [] (pieces_ne_nil separator rest), ih]
      rfl
    · simp only [pieces, h, if_false]
      split
      · next hp => exact absurd hp (pieces_ne_nil separator rest)
      · next piece more hp =>
        rw [hp] at ih
        cases more with
        | nil => simpa [join] using ih
        | cons _ _ => simpa [join] using ih

end ScriptLoader.Text
