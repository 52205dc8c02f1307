import ScriptLoader.Proofs.Text.Pieces
import Std.Data.String.ToNat

/-!
# Texts with a numeral at one end

A number is joined to a free text by a separator that is no digit. The text may hold the
separator as well: the numeral tells which one was meant.
-/

namespace ScriptLoader

/-- A numeral holds digits only. -/
theorem notMem_toList_repr {separator : Char} (notDigit : separator.isDigit = false)
    (number : Nat) : separator ∉ number.repr.toList := by
  intro member
  rw [Nat.repr_eq_ofList_toDigits, String.toList_ofList] at member
  have digit := Nat.isDigit_of_mem_toDigits (by decide) (by decide) member
  simp [notDigit] at digit

private theorem eq_nil_of_cons_eq_append {separator : Char} {left right between : List Char}
    (absent : separator ∉ left) (same : separator :: left = between ++ separator :: right) :
    between = [] := by
  cases between with
  | nil => rfl
  | cons letter rest =>
    obtain ⟨_, leftEq⟩ := List.cons.inj same
    rw [leftEq] at absent
    simp at absent

/-- The last separator of a text tells what is before it and after it. -/
theorem append_separator_inj {separator : Char} {first second firstEnd secondEnd : String}
    (firstAbsent : separator ∉ firstEnd.toList) (secondAbsent : separator ∉ secondEnd.toList)
    (same : first ++ .singleton separator ++ firstEnd =
      second ++ .singleton separator ++ secondEnd) :
    first = second ∧ firstEnd = secondEnd := by
  have letters := congrArg String.toList same
  simp only [String.toList_append, String.toList_singleton, List.append_assoc,
    List.singleton_append] at letters
  have startsEq : first.toList = second.toList := by
    rcases List.append_eq_append_iff.mp letters with
      ⟨between, secondEq, rest⟩ | ⟨between, firstEq, rest⟩
    · rw [secondEq, eq_nil_of_cons_eq_append firstAbsent rest, List.append_nil]
    · rw [firstEq, eq_nil_of_cons_eq_append secondAbsent rest, List.append_nil]
  rw [startsEq, List.append_cancel_left_eq, List.cons.injEq] at letters
  exact ⟨String.toList_inj.mp startsEq, String.toList_inj.mp letters.2⟩

/-- The first separator of a text tells what is before it and after it. -/
theorem separator_append_inj {separator : Char} {firstStart secondStart first second : String}
    (firstAbsent : separator ∉ firstStart.toList) (secondAbsent : separator ∉ secondStart.toList)
    (same : firstStart ++ .singleton separator ++ first =
      secondStart ++ .singleton separator ++ second) :
    firstStart = secondStart ∧ first = second := by
  have letters := congrArg String.toList same
  simp only [String.toList_append, String.toList_singleton, List.append_assoc,
    List.singleton_append] at letters
  have startsEq : firstStart.toList = secondStart.toList := by
    have piecesEq := congrArg (Text.pieces separator) letters
    rw [Text.pieces_append_cons firstAbsent, Text.pieces_append_cons secondAbsent] at piecesEq
    exact (List.cons.inj piecesEq).1
  rw [startsEq, List.append_cancel_left_eq, List.cons.injEq] at letters
  exact ⟨String.toList_inj.mp startsEq, String.toList_inj.mp letters.2⟩

/-- A text with a number before a separator tells both. -/
theorem repr_append_inj {separator : Char} (notDigit : separator.isDigit = false)
    {firstNumber secondNumber : Nat} {first second : String}
    (same : firstNumber.repr ++ .singleton separator ++ first =
      secondNumber.repr ++ .singleton separator ++ second) :
    firstNumber = secondNumber ∧ first = second := by
  obtain ⟨numeralsEq, restEq⟩ := separator_append_inj
    (notMem_toList_repr notDigit firstNumber) (notMem_toList_repr notDigit secondNumber) same
  exact ⟨Nat.repr_inj.mp numeralsEq, restEq⟩

end ScriptLoader
