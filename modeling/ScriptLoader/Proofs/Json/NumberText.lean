import Mathlib.Algebra.GroupWithZero.Nat
import ScriptLoader.Json.Token

/-!
# The text of a number

A whole number is written by its digits alone, a decimal always with a point or an exponent.
Reading the digits back without any rounding therefore gives the number that was written, its
kind and the sign of a zero included, and it stops where the text of the number ends:
`Number.readExact?_chars`. This is more than the readers of JSON text promise, since they round.
-/

namespace ScriptLoader

namespace Json

/-- Nothing follows, or what may follow the text of a value inside another one. -/
def EndsValue (rest : List Char) : Prop :=
  ∀ c, rest.head? = some c → c = ',' ∨ c = ']' ∨ c = '}'

/-- What follows does not go on with digits. -/
def EndsDigits (rest : List Char) : Prop :=
  ∀ c, rest.head? = some c → c.isDigit = false

/-- A value may be the last thing in a text. -/
theorem endsValue_nil : EndsValue [] := by
  rintro c ⟨⟩

/-- A run of digits ends before any other character. -/
theorem endsDigits_cons {c : Char} (notDigit : c.isDigit = false) (rest : List Char) :
    EndsDigits (c :: rest) := by
  rintro d ⟨⟩
  exact notDigit

/-- What may follow a value may follow a run of digits. -/
theorem EndsValue.endsDigits {rest : List Char} (ends : EndsValue rest) : EndsDigits rest := by
  intro c first
  rcases ends c first with rfl | rfl | rfl <;> rfl

section Digits

/-- The value of written digits is that of their characters. -/
theorem ofDigits_map_digitValue (digits : List Char) :
    ofDigits 10 (digits.map digitValue) = Nat.ofDigitChars 10 digits 0 := by
  rw [ofDigits, List.foldl_map, Nat.ofDigitChars_eq_foldl]
  congr 1
  funext value c
  rw [digitValue, Nat.mul_comm]

/-- Digits are read up to where they end. -/
theorem readDigits?_append {digits rest : List Char} (nonempty : digits ≠ [])
    (areDigits : ∀ c ∈ digits, c.isDigit = true) (ends : EndsDigits rest) :
    readDigits? (digits ++ rest) = some (digits.map digitValue, rest) := by
  have noneTaken : rest.takeWhile Char.isDigit = [] := by
    cases rest with
    | nil => rfl
    | cons c more => simp [ends c rfl]
  have noneDropped : rest.dropWhile Char.isDigit = rest := by
    cases rest with
    | nil => rfl
    | cons c more => simp [ends c rfl]
  rw [readDigits?, List.takeWhile_append_of_pos areDigits, noneTaken, List.append_nil,
    List.dropWhile_append_of_pos areDigits, noneDropped]
  cases digits with
  | nil => exact absurd rfl nonempty
  | cons c more => rfl

/-- A number is written in digits. -/
theorem isDigit_of_mem_digitText {number : Nat} {c : Char}
    (written : c ∈ Decimal.digitText number) : c.isDigit = true :=
  Nat.isDigit_of_mem_toDigits (by decide) (by decide) written

/-- Padding zeros are digits. -/
theorem isDigit_of_mem_zeros {count : Nat} {c : Char} (written : c ∈ List.replicate count '0') :
    c.isDigit = true := by
  rw [List.eq_of_mem_replicate written]
  rfl

/-- The digits of a number other than zero do not start with `0`. -/
theorem digitText_eq_cons {number : Nat} (nonzero : number ≠ 0) :
    ∃ c more, Decimal.digitText number = c :: more ∧ c ≠ '0' := by
  rw [Decimal.digitText]
  induction number using Nat.strongRecOn with
  | ind number ih =>
    rw [Nat.toDigits_eq_if (by decide)]
    split
    · exact ⟨number.digitChar, [], rfl, by simpa using nonzero⟩
    · next large =>
      obtain ⟨c, more, digitsEq, notZero⟩ := ih (number / 10) (by omega) (by omega)
      exact ⟨c, more ++ [(number % 10).digitChar], by rw [digitsEq]; rfl, notZero⟩

end Digits

/-- The digits of a number without sign, and its exponent. Without digits after the point it
has no point. -/
structure Numeral where
  whole : List Char
  fraction : List Char
  exponent : Option Int
  whole_isDigit : ∀ c ∈ whole, c.isDigit = true
  /-- There is a digit before the point, and no zero in front of others. -/
  whole_leading : whole = ['0'] ∨ ∃ c more, whole = c :: more ∧ c ≠ '0'
  fraction_isDigit : ∀ c ∈ fraction, c.isDigit = true

namespace Numeral

/-- The point and what comes after it. -/
def fractionChars (numeral : Numeral) : List Char :=
  if numeral.fraction = [] then [] else '.' :: numeral.fraction

/-- The exponent with its sign. -/
def exponentChars (numeral : Numeral) : List Char :=
  match numeral.exponent with
  | none => []
  | some exponent =>
    'e' :: (if exponent < 0 then '-' else '+') :: Nat.toDigits 10 exponent.natAbs

/-- The text of a numeral. -/
def chars (numeral : Numeral) : List Char :=
  numeral.whole ++ (numeral.fractionChars ++ numeral.exponentChars)

/-- The parts that are read from a numeral. -/
def written (numeral : Numeral) (negative : Bool) : Number.Written where
  negative
  whole := numeral.whole.map digitValue
  fraction := numeral.fraction.map digitValue
  exponent := numeral.exponent
  pointed := !numeral.fraction.isEmpty

variable (numeral : Numeral) {rest : List Char}

/-- The exponent of a numeral does not go on the digits in front of it. -/
theorem endsDigits_exponentChars (ends : EndsValue rest) :
    EndsDigits (numeral.exponentChars ++ rest) := by
  rw [exponentChars]
  split
  · exact ends.endsDigits
  · exact endsDigits_cons rfl _

/-- The fraction of a numeral does not go on its whole part. -/
theorem endsDigits_fractionChars (ends : EndsValue rest) :
    EndsDigits (numeral.fractionChars ++ (numeral.exponentChars ++ rest)) := by
  rw [fractionChars]
  split
  · exact numeral.endsDigits_exponentChars ends
  · exact endsDigits_cons rfl _

/-- The whole part of a numeral is read back, whatever follows its digits. -/
theorem readWhole?_append (ends : EndsDigits rest) :
    readWhole? (numeral.whole ++ rest) = some (numeral.whole.map digitValue, rest) := by
  rcases numeral.whole_leading with single | ⟨c, more, wholeEq, notZero⟩
  · rw [single]
    rfl
  · have nonempty : numeral.whole ≠ [] := by simp [wholeEq]
    rw [← readDigits?_append nonempty numeral.whole_isDigit ends, wholeEq]
    simp [readWhole?, notZero]

/-- The fraction of a numeral is read back, or found to be missing. -/
theorem readFraction?_append (ends : EndsValue rest) :
    readFraction? (numeral.fractionChars ++ (numeral.exponentChars ++ rest)) =
      some (if numeral.fraction = [] then none else some (numeral.fraction.map digitValue),
        numeral.exponentChars ++ rest) := by
  by_cases empty : numeral.fraction = []
  · have noPoint : ∀ more, numeral.exponentChars ++ rest ≠ '.' :: more := by
      intro more pointed
      rw [exponentChars] at pointed
      split at pointed
      · rcases ends '.' (by rw [← List.nil_append rest, pointed]; rfl) with found | found | found <;>
          simp at found
      · simp at pointed
    simp only [fractionChars, if_pos empty, List.nil_append]
    rw [readFraction?]
    exact noPoint
  · simp only [fractionChars, if_neg empty, List.cons_append, readFraction?,
      readDigits?_append empty numeral.fraction_isDigit (numeral.endsDigits_exponentChars ends),
      Option.map_some]

/-- The exponent of a numeral is read back. -/
theorem readExponent?_append (ends : EndsValue rest) :
    readExponent? (numeral.exponentChars ++ rest) = some (numeral.exponent, rest) := by
  rw [exponentChars]
  cases numeral.exponent with
  | none =>
    cases rest with
    | nil => rfl
    | cons c more => rcases ends c rfl with rfl | rfl | rfl <;> rfl
  | some exponent =>
    have digitsRead : readDigits? (Nat.toDigits 10 exponent.natAbs ++ rest) =
        some ((Nat.toDigits 10 exponent.natAbs).map digitValue, rest) :=
      readDigits?_append Nat.toDigits_ne_nil (fun c => isDigit_of_mem_digitText) ends.endsDigits
    have magnitude : ofDigits 10 ((Nat.toDigits 10 exponent.natAbs).map digitValue) =
        exponent.natAbs := by
      rw [ofDigits_map_digitValue, Nat.ofDigitChars_ten_toDigits]
    by_cases below : exponent < 0
    · have value : -(exponent.natAbs : Int) = exponent := by omega
      simp only [if_pos below, List.cons_append, readExponent?, decide_true, Bool.true_or, if_true,
        digitsRead, Option.map_some, magnitude, value]
    · have value : (exponent.natAbs : Int) = exponent := by omega
      simp only [if_neg below, List.cons_append, readExponent?, decide_true, Bool.true_or, if_true,
        digitsRead, Option.map_some, magnitude, value, Bool.false_eq_true, if_false]

/-- A numeral is read up to its end, and gives its parts. -/
theorem readNumber?_append (negative : Bool) (ends : EndsValue rest) :
    readNumber? negative (numeral.chars ++ rest) = some (numeral.written negative, rest) := by
  simp only [readNumber?, chars, List.append_assoc,
    numeral.readWhole?_append (numeral.endsDigits_fractionChars ends),
    numeral.readFraction?_append ends, numeral.readExponent?_append ends, Option.bind_eq_bind,
    Option.bind_some, written]
  cases numeral.fraction <;> simp

/-- The numeral writes the digits of a decimal, maybe with zeros behind them. -/
structure Writes (numeral : Numeral) (digits : Nat) (exponent : Int) : Prop where
  /-- It cannot be taken for a whole number. -/
  isDecimal : numeral.fraction ≠ [] ∨ numeral.exponent ≠ none
  value : ∃ zeros : Nat,
    Nat.ofDigitChars 10 (numeral.whole ++ numeral.fraction) 0 = digits * 10 ^ zeros ∧
      numeral.exponent.getD 0 - numeral.fraction.length = exponent - zeros

end Numeral

end Json

namespace Decimal

open Json

variable {digits : Nat}

/-- A number has the value of its digits. -/
theorem ofDigitChars_digitText (digits : Nat) :
    Nat.ofDigitChars 10 (digitText digits) 0 = digits :=
  Nat.ofDigitChars_ten_toDigits

/-- Zeros behind the digits of a number count as powers of ten. -/
theorem ofDigitChars_append_zeros (digits zeros : Nat) :
    Nat.ofDigitChars 10 (digitText digits ++ List.replicate zeros '0') 0 = digits * 10 ^ zeros := by
  rw [Nat.ofDigitChars_append, ofDigitChars_digitText, Nat.ofDigitChars_replicate_zero,
    Nat.mul_comm]

/-- Zero is written with a fraction. -/
theorem exists_numeral_zero : ∃ numeral : Numeral,
    ['0', '.', '0'] = numeral.chars ∧ numeral.Writes 0 0 :=
  ⟨⟨['0'], ['0'], none, by simp, .inl rfl, by simp⟩, rfl, .inl (by simp), 1, rfl, rfl⟩

/-- A whole number has its zeros and one more zero behind the point. -/
theorem exists_numeral_whole (nonzero : digits ≠ 0) (zeros : Nat) : ∃ numeral : Numeral,
    digitText digits ++ List.replicate zeros '0' ++ ['.', '0'] = numeral.chars ∧
      numeral.Writes digits zeros := by
  obtain ⟨c, more, digitsEq, notZero⟩ := digitText_eq_cons nonzero
  refine ⟨⟨digitText digits ++ List.replicate zeros '0', ['0'], none, ?_, ?_, by simp⟩,
    ?_, .inl (by simp), zeros + 1, ?_, ?_⟩
  · intro d written
    rcases List.mem_append.mp written with inDigits | inZeros
    · exact isDigit_of_mem_digitText inDigits
    · exact isDigit_of_mem_zeros inZeros
  · exact .inr ⟨c, more ++ List.replicate zeros '0', by rw [digitsEq]; rfl, notZero⟩
  · simp [Numeral.chars, Numeral.fractionChars, Numeral.exponentChars]
  · rw [List.append_assoc, ← List.replicate_succ']
    exact ofDigitChars_append_zeros digits (zeros + 1)
  · simp only [Option.getD_none, List.length_singleton]
    omega

/-- The point can stand among the digits. -/
theorem exists_numeral_among {places : Nat} (positive : 0 < places)
    (before : places < (digitText digits).length) (nonzero : digits ≠ 0) :
    ∃ numeral : Numeral,
      (digitText digits).take ((digitText digits).length - places) ++
          '.' :: (digitText digits).drop ((digitText digits).length - places) = numeral.chars ∧
        numeral.Writes digits (-places) := by
  obtain ⟨c, more, digitsEq, notZero⟩ := digitText_eq_cons nonzero
  have behind : (digitText digits).drop ((digitText digits).length - places) ≠ [] := by
    rw [ne_eq, List.drop_eq_nil_iff]
    omega
  refine ⟨⟨(digitText digits).take ((digitText digits).length - places),
    (digitText digits).drop ((digitText digits).length - places), none, ?_, ?_, ?_⟩,
    ?_, .inl behind, 0, ?_, ?_⟩
  · intro d written
    exact isDigit_of_mem_digitText (List.mem_of_mem_take written)
  · obtain ⟨count, countEq⟩ := Nat.exists_eq_add_of_lt (Nat.sub_pos_of_lt before)
    rw [countEq, digitsEq]
    exact .inr ⟨c, more.take (0 + count), rfl, notZero⟩
  · intro d written
    exact isDigit_of_mem_digitText (List.mem_of_mem_drop written)
  · simp [Numeral.chars, Numeral.fractionChars, Numeral.exponentChars, behind]
  · rw [List.take_append_drop, ofDigitChars_digitText]
    simp
  · simp only [Option.getD_none, List.length_drop]
    omega

/-- Zeros can stand between the point and the digits. -/
theorem exists_numeral_small {places : Nat} (far : (digitText digits).length ≤ places)
    (nonzero : digits ≠ 0) : ∃ numeral : Numeral,
      '0' :: '.' :: (List.replicate (places - (digitText digits).length) '0' ++
          digitText digits) = numeral.chars ∧
        numeral.Writes digits (-places) := by
  obtain ⟨c, more, digitsEq, notZero⟩ := digitText_eq_cons nonzero
  have behind : List.replicate (places - (digitText digits).length) '0' ++
      digitText digits ≠ [] := by
    simp [digitsEq]
  refine ⟨⟨['0'], List.replicate (places - (digitText digits).length) '0' ++ digitText digits,
    none, by simp, .inl rfl, ?_⟩, ?_, .inl behind, 0, ?_, ?_⟩
  · intro d written
    rcases List.mem_append.mp written with inZeros | inDigits
    · exact isDigit_of_mem_zeros inZeros
    · exact isDigit_of_mem_digitText inDigits
  · simp only [Numeral.chars, Numeral.fractionChars, if_neg behind, Numeral.exponentChars,
      List.append_nil, List.singleton_append]
  · rw [List.singleton_append, ← List.cons_append, ← List.replicate_succ,
      Nat.ofDigitChars_append, Nat.ofDigitChars_replicate_zero, Nat.mul_zero,
      ofDigitChars_digitText]
    simp
  · simp only [Option.getD_none, List.length_append, List.length_replicate]
    omega

/-- Digits that are written out with a point make up a numeral. -/
theorem exists_numeral_positional (nonzero : digits ≠ 0) (exponent : Int) :
    ∃ numeral : Numeral, positional (digitText digits) exponent = numeral.chars ∧
      numeral.Writes digits exponent := by
  simp only [positional]
  split
  · next whole =>
    obtain ⟨numeral, charsEq, writes⟩ := exists_numeral_whole nonzero exponent.toNat
    exact ⟨numeral, charsEq, by rwa [Int.toNat_of_nonneg whole] at writes⟩
  · next below =>
    have exponentEq : exponent = -((-exponent).toNat : Int) := by omega
    split
    · next before =>
      obtain ⟨numeral, charsEq, writes⟩ :=
        exists_numeral_among (by omega) before nonzero
      exact ⟨numeral, charsEq, by rwa [← exponentEq] at writes⟩
    · next far =>
      obtain ⟨numeral, charsEq, writes⟩ := exists_numeral_small (Nat.le_of_not_lt far) nonzero
      exact ⟨numeral, charsEq, by rwa [← exponentEq] at writes⟩

/-- Digits that are written with a power of ten make up a numeral. -/
theorem exists_numeral_scientific (nonzero : digits ≠ 0) (exponent : Int) :
    ∃ numeral : Numeral,
      scientific (digitText digits) ((digitText digits).length - 1 + exponent) = numeral.chars ∧
        numeral.Writes digits exponent := by
  obtain ⟨c, more, digitsEq, notZero⟩ := digitText_eq_cons nonzero
  have areDigits : ∀ d ∈ c :: more, d.isDigit = true := by
    intro d written
    rw [← digitsEq] at written
    exact isDigit_of_mem_digitText written
  refine ⟨⟨[c], more, some ((digitText digits).length - 1 + exponent), ?_, ?_, ?_⟩, ?_, ?_, 0, ?_, ?_⟩
  · intro d written
    rw [List.mem_singleton.mp written]
    exact areDigits c (List.mem_cons_self ..)
  · exact .inr ⟨c, [], rfl, notZero⟩
  · intro d written
    exact areDigits d (List.mem_cons_of_mem c written)
  · rw [digitsEq]
    cases more <;> simp [scientific, Numeral.chars, Numeral.fractionChars, Numeral.exponentChars]
  · exact .inr (by simp)
  · rw [List.singleton_append, ← digitsEq, ofDigitChars_digitText]
    simp
  · simp only [digitsEq, Option.getD_some, List.length_cons]
    omega

/-- The text of a decimal is a numeral behind its sign. -/
theorem exists_numeral (number : Decimal) : ∃ numeral : Numeral,
    number.chars = (if number.negative then '-' :: numeral.chars else numeral.chars) ∧
      numeral.Writes number.digits number.exponent := by
  by_cases zero : number.digits = 0
  · have exponentEq : number.exponent = 0 := by
      rcases number.canonical with other | isZero
      · simp [zero] at other
      · exact isZero.2
    obtain ⟨numeral, charsEq, writes⟩ := exists_numeral_zero
    refine ⟨numeral, ?_, by rwa [zero, exponentEq]⟩
    simp only [chars, if_pos zero, charsEq]
  · by_cases near : (-5 ≤ number.magnitude && number.magnitude < 16) = true
    · obtain ⟨numeral, charsEq, writes⟩ := exists_numeral_positional zero number.exponent
      exact ⟨numeral, by simp only [chars, if_neg zero, if_pos near, charsEq], writes⟩
    · obtain ⟨numeral, charsEq, writes⟩ := exists_numeral_scientific zero number.exponent
      refine ⟨numeral, ?_, writes⟩
      rw [chars, if_neg zero, if_neg near, magnitude, charsEq]

/-- Zeros behind the digits of a decimal are taken off again. -/
theorem ofDigitsWithin_zeros (number : Decimal) (nonzero : number.digits % 10 ≠ 0) (zeros : Nat)
    {fuel : Nat} (enough : zeros < fuel) :
    ofDigitsWithin number.negative fuel (number.digits * 10 ^ zeros) (number.exponent - zeros) =
      number := by
  induction zeros generalizing fuel with
  | zero =>
    obtain ⟨fuel, rfl⟩ := Nat.exists_eq_add_of_lt enough
    simp [ofDigitsWithin, nonzero]
  | succ zeros ih =>
    obtain ⟨fuel, rfl⟩ := Nat.exists_eq_add_of_lt enough
    have divides : number.digits * 10 ^ (zeros + 1) = 10 * (number.digits * 10 ^ zeros) := by
      rw [Nat.pow_succ, ← Nat.mul_assoc, Nat.mul_comm]
    have shifted : number.exponent - (zeros + 1 : Nat) + 1 = number.exponent - zeros := by
      omega
    rw [ofDigitsWithin, dif_neg (by omega), shifted, divides, Nat.mul_div_cancel_left _ (by decide)]
    exact ih (by omega)

/-- A decimal is the same whether its digits are counted with zeros behind them or without. -/
theorem ofDigits_zeros (number : Decimal) (zeros : Nat) :
    ofDigits number.negative (number.digits * 10 ^ zeros) (number.exponent - zeros) = number := by
  rcases number.canonical with nonzero | ⟨zero, exponentEq⟩
  · refine ofDigitsWithin_zeros number nonzero zeros ?_
    have grows : zeros < 10 ^ zeros := Nat.lt_pow_self (by decide)
    have atLeast : 10 ^ zeros ≤ number.digits * 10 ^ zeros :=
      Nat.le_mul_of_pos_left _ (by omega)
    omega
  · obtain ⟨negative, digits, exponent, canonical⟩ := number
    obtain rfl : digits = 0 := zero
    obtain rfl : exponent = 0 := exponentEq
    simp [ofDigits, ofDigitsWithin, Decimal.zero]

end Decimal

namespace Number

open Json

/-- Whether the text of a number starts with a minus sign. -/
def isNegative : Number → Bool
  | natural _ => false
  | negative _ => true
  | decimal value => value.negative

/-- The number that its parts write, without any rounding. -/
def Written.exact (written : Written) : Number :=
  let digits := Json.ofDigits 10 (written.whole ++ written.fraction)
  if written.pointed || written.exponent.isSome then
    .decimal (.ofDigits written.negative digits
      (written.exponent.getD 0 - written.fraction.length))
  else if written.negative then .negative digits
  else .natural digits

/-- The number that is written at the front of a text, without any rounding, and the rest. -/
def readExact? : List Char → Option (Number × List Char)
  | '-' :: text => (Json.readNumber? true text).map (Prod.map Written.exact id)
  | text => (Json.readNumber? false text).map (Prod.map Written.exact id)

/-- A numeral that writes the digits of a decimal is read as this decimal. -/
theorem exact_written {numeral : Numeral} {value : Decimal}
    (writes : numeral.Writes value.digits value.exponent) :
    (numeral.written value.negative).exact = .decimal value := by
  obtain ⟨zeros, digitsEq, scaleEq⟩ := writes.value
  have isDecimal : (!numeral.fraction.isEmpty || numeral.exponent.isSome) = true := by
    rcases writes.isDecimal with pointed | scaled
    · simp [pointed]
    · simp [Option.isSome_iff_ne_none.mpr scaled]
  simp only [Written.exact, Numeral.written, if_pos isDecimal, ← List.map_append,
    ofDigits_map_digitValue, digitsEq, List.length_map, scaleEq, Decimal.ofDigits_zeros]

/-- Digits alone are read as a whole number. -/
theorem exists_numeral_digits (digits : Nat) : ∃ numeral : Numeral,
    Nat.toDigits 10 digits = numeral.chars ∧ ∀ negative,
      (numeral.written negative).exact = if negative then .negative digits else .natural digits := by
  refine ⟨⟨Nat.toDigits 10 digits, [], none, fun c => isDigit_of_mem_digitText, ?_, by simp⟩,
    ?_, ?_⟩
  · by_cases zero : digits = 0
    · exact .inl (by rw [zero, Nat.toDigits_zero])
    · exact .inr (digitText_eq_cons zero)
  · simp [Numeral.chars, Numeral.fractionChars, Numeral.exponentChars]
  · intro negative
    simp [Numeral.written, Written.exact, ofDigits_map_digitValue]

/-- The text of a number is a numeral behind its sign, and its parts write the number. -/
theorem exists_numeral (number : Number) : ∃ numeral : Numeral,
    number.chars = (if number.isNegative then '-' :: numeral.chars else numeral.chars) ∧
      (numeral.written number.isNegative).exact = number := by
  cases number with
  | natural value =>
    obtain ⟨numeral, charsEq, exactEq⟩ := exists_numeral_digits value
    exact ⟨numeral, charsEq, exactEq false⟩
  | negative value =>
    obtain ⟨numeral, charsEq, exactEq⟩ := exists_numeral_digits value
    exact ⟨numeral, by rw [chars, charsEq]; rfl, exactEq true⟩
  | decimal value =>
    obtain ⟨numeral, charsEq, writes⟩ := value.exists_numeral
    exact ⟨numeral, charsEq, exact_written writes⟩

/-- The text of a number tells which number it is, and where it ends. -/
theorem readExact?_chars (number : Number) {rest : List Char} (ends : EndsValue rest) :
    readExact? (number.chars ++ rest) = some (number, rest) := by
  obtain ⟨numeral, charsEq, exactEq⟩ := number.exists_numeral
  have read := numeral.readNumber?_append number.isNegative ends
  rw [charsEq]
  cases negative : number.isNegative with
  | true =>
    rw [negative] at read exactEq
    rw [if_pos rfl, List.cons_append, readExact?, read, Option.map_some, Prod.map_apply, exactEq,
      id]
  | false =>
    rw [negative] at read exactEq
    have unsigned : ∀ more, numeral.chars ++ rest ≠ '-' :: more := by
      intro more signed
      rw [signed] at read
      simp [Json.readNumber?, readWhole?, readDigits?] at read
    rw [if_neg (by decide), readExact?, read, Option.map_some, Prod.map_apply, exactEq, id]
    exact unsigned

end Number

end ScriptLoader
