/-!
# Decimal numbers and their text

A decimal is a sign, a whole number of digits and a power of ten, kept without trailing
zeros, so that a number other than zero has one decimal only. Its text is positional from
`1e-5` up to, not including, `1e16`, with at least one digit after the point, and has an
exponent with a sign elsewhere.
-/

namespace ScriptLoader

/-- The number `digits * 10 ^ exponent`, or its negative. Zero has a sign, too. -/
structure Decimal where
  /-- Whether the number is below zero, or zero written with a minus sign. -/
  negative : Bool
  /-- The significant digits, as a whole number. -/
  digits : Nat
  /-- The power of ten of the last significant digit. -/
  exponent : Int
  canonical : digits % 10 ≠ 0 ∨ (digits = 0 ∧ exponent = 0)
  deriving DecidableEq, Repr

namespace Decimal

/-- Zero with a sign. -/
def zero (negative : Bool) : Decimal :=
  ⟨negative, 0, 0, .inr ⟨rfl, rfl⟩⟩

/-- Drops the trailing zeros of `digits`, at most `fuel` of them. -/
def ofDigitsWithin (negative : Bool) : Nat → Nat → Int → Decimal
  | 0, _, _ => zero negative
  | fuel + 1, digits, exponent =>
    if h : digits % 10 ≠ 0 then ⟨negative, digits, exponent, .inl h⟩
    else ofDigitsWithin negative fuel (digits / 10) (exponent + 1)

/-- The decimal of `digits * 10 ^ exponent`. -/
def ofDigits (negative : Bool) (digits : Nat) (exponent : Int) : Decimal :=
  ofDigitsWithin negative (digits + 1) digits exponent

/-- Whether the number is zero, with either sign. -/
def isZero (number : Decimal) : Bool :=
  number.digits = 0

/-- The digits of a number other than zero, or `0`. -/
def digitText (digits : Nat) : List Char :=
  Nat.toDigits 10 digits

/-- The power of ten of the first significant digit. -/
def magnitude (number : Decimal) : Int :=
  (digitText number.digits).length - 1 + number.exponent

/-- The text without sign of a number in the positional range. -/
def positional (digits : List Char) (exponent : Int) : List Char :=
  if 0 ≤ exponent then digits ++ List.replicate exponent.toNat '0' ++ ['.', '0']
  else
    let places := (-exponent).toNat
    if places < digits.length then
      digits.take (digits.length - places) ++ '.' :: digits.drop (digits.length - places)
    else '0' :: '.' :: (List.replicate (places - digits.length) '0' ++ digits)

/-- The text without sign of a number outside the positional range. -/
def scientific (digits : List Char) (magnitude : Int) : List Char :=
  digits.take 1 ++ (if digits.length ≤ 1 then [] else '.' :: digits.drop 1) ++
    'e' :: (if magnitude < 0 then '-' else '+') :: Nat.toDigits 10 magnitude.natAbs

/-- The text of a number as a list of characters. -/
def chars (number : Decimal) : List Char :=
  let body :=
    if number.digits = 0 then ['0', '.', '0']
    else if -5 ≤ number.magnitude && number.magnitude < 16 then
      positional (digitText number.digits) number.exponent
    else scientific (digitText number.digits) number.magnitude
  if number.negative then '-' :: body else body

/-- The text of a number. -/
def text (number : Decimal) : String :=
  String.ofList number.chars

end Decimal

end ScriptLoader
