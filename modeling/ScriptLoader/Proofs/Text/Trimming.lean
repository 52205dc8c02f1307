import Mathlib.Data.List.DropRight
import ScriptLoader.Text.Blank

/-!
# Texts without the blanks at either end

Trimming leaves the part of a text that starts and ends with no blank and has only blanks around
it, and there is just one such part: `trimBlanks_eq_iff`.
-/

namespace ScriptLoader.Text

/-- A digit is no blank. -/
theorem isBlank_of_isDigit {c : Char} (isDigit : c.isDigit = true) : isBlank c = false := by
  have bounds : 48 ≤ c.toNat ∧ c.toNat ≤ 57 := by
    simpa [Char.isDigit, UInt32.le_iff_toNat_le] using isDigit
  simp only [isBlank, Bool.or_eq_false_iff, Bool.and_eq_false_iff, decide_eq_false_iff_not]
  omega

/-- A part that has only blanks. -/
def IsBlank (part : List Char) : Prop :=
  ∀ c ∈ part, isBlank c = true

/-- A part without a blank at either end. -/
structure IsTrimmed (part : List Char) : Prop where
  head : ∀ c ∈ part.head?, isBlank c = false
  last : ∀ c ∈ part.getLast?, isBlank c = false

section Trim

variable {text front core back : List Char}

/-- Nothing is dropped from a part that starts with no blank. -/
theorem dropWhile_eq_self (head : ∀ c ∈ core.head?, isBlank c = false) :
    core.dropWhile isBlank = core := by
  cases core with
  | nil => rfl
  | cons c rest => exact List.dropWhile_cons_of_neg (by simp [head c rfl])

/-- Trimming leaves the part that has only blanks around it. -/
theorem trimBlanks_append (blankFront : IsBlank front) (trimmed : IsTrimmed core)
    (blankBack : IsBlank back) : trimBlanks (front ++ core ++ back) = core := by
  have fromFront : (front ++ core ++ back).dropWhile isBlank = (core ++ back).dropWhile isBlank := by
    rw [List.append_assoc, List.dropWhile_append_of_pos blankFront]
  have fromBack : (back.reverse ++ core.reverse).dropWhile isBlank = core.reverse := by
    rw [List.dropWhile_append_of_pos fun c member => blankBack c (List.mem_reverse.mp member)]
    exact dropWhile_eq_self (by simpa using trimmed.last)
  rw [trimBlanks, fromFront]
  cases core with
  | nil =>
    -- Then the front reaches over all of the text.
    have noneLeft : back.dropWhile isBlank = [] := List.dropWhile_eq_nil_iff.mpr blankBack
    rw [List.nil_append, noneLeft]
    rfl
  | cons c rest =>
    have stops : ((c :: rest) ++ back).dropWhile isBlank = (c :: rest) ++ back :=
      dropWhile_eq_self (by simpa using trimmed.head)
    rw [stops, List.reverse_append, fromBack, List.reverse_reverse]

/-- Trimming drops the blanks in front and then those behind. -/
theorem trimBlanks_eq_rdropWhile (text : List Char) :
    trimBlanks text = (text.dropWhile isBlank).rdropWhile isBlank :=
  rfl

/-- What trimming leaves has no blank at either end. -/
theorem isTrimmed_trimBlanks (text : List Char) : IsTrimmed (trimBlanks text) where
  head := by
    intro c first
    obtain ⟨behind, split⟩ := List.rdropWhile_prefix isBlank (text.dropWhile isBlank)
    rw [trimBlanks_eq_rdropWhile] at first
    have stopped := List.head?_dropWhile_not isBlank text
    rw [← split, List.head?_append, Option.mem_def.mp first] at stopped
    simpa using stopped
  last := by
    intro c isLast
    rw [trimBlanks_eq_rdropWhile] at isLast
    obtain ⟨nonempty, rfl⟩ := List.mem_getLast?_eq_getLast isLast
    simpa using List.rdropWhile_last_not isBlank (text.dropWhile isBlank) nonempty

/-- Trimming finds the part of a text that starts and ends with no blank. -/
theorem trimBlanks_eq_iff :
    trimBlanks text = core ↔
      IsTrimmed core ∧ ∃ front back, IsBlank front ∧ IsBlank back ∧ text = front ++ core ++ back := by
  constructor
  · rintro rfl
    refine ⟨isTrimmed_trimBlanks text, text.takeWhile isBlank,
      (text.dropWhile isBlank).rtakeWhile isBlank, ?_, ?_, ?_⟩
    · exact fun c member => List.mem_takeWhile_imp member
    · exact fun c member => List.mem_rtakeWhile_imp member
    · have behind : trimBlanks text ++ (text.dropWhile isBlank).rtakeWhile isBlank =
          text.dropWhile isBlank := List.rdropWhile_append_rtakeWhile ..
      rw [List.append_assoc, behind, List.takeWhile_append_dropWhile]
  · rintro ⟨trimmed, front, back, blankFront, blankBack, rfl⟩
    exact trimBlanks_append blankFront trimmed blankBack

end Trim

end ScriptLoader.Text
