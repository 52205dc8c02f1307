import ScriptLoader.Number.Decimal

/-!
# Binary floating-point magnitudes

The finite numbers without sign of the binary format with 53 significant bits, as a whole
number times a power of two. Every operation is the exact one followed by rounding to the
nearest such number, a tie going to the even one. `shortest` picks, of the decimals with
the fewest digits that round to a number, the one nearest to it.
-/

namespace ScriptLoader

/-- The number `significand * 2 ^ exponent`. -/
structure Binary64 where
  significand : Nat
  exponent : Int
  deriving DecidableEq, Repr

namespace Binary64

/-- The exponent of the smallest numbers. -/
def leastExponent : Int := -1074

/-- The exponent of the largest numbers. -/
def greatestExponent : Int := 971

/-- The least significand that fills all 53 bits. -/
def leastNormal : Nat := 0x10000000000000

/-- The quotient of two numbers rounded to the nearest whole number, a tie to the even one. -/
def divideToEven (numerator denominator : Nat) : Nat :=
  let quotient := numerator / denominator
  let twice := 2 * (numerator % denominator)
  if twice < denominator then quotient
  else if denominator < twice then quotient + 1
  else if quotient % 2 = 0 then quotient else quotient + 1

/-- The fraction `numerator / denominator`, divided by `2 ^ exponent`. -/
def scaledDown (numerator denominator : Nat) (exponent : Int) : Nat × Nat :=
  if 0 ≤ exponent then (numerator, denominator * Nat.pow 2 exponent.toNat)
  else (numerator * Nat.pow 2 (-exponent).toNat, denominator)

/-- The number nearest to a fraction, or none if it is too large for the format. -/
def round (numerator denominator : Nat) : Option Binary64 :=
  if numerator = 0 then some ⟨0, leastExponent⟩
  else
    let guess := max ((numerator.log2 : Int) - denominator.log2 - 52) leastExponent
    let (n, d) := scaledDown numerator denominator guess
    let exponent := if n / d < leastNormal then max (guess - 1) leastExponent else guess
    let (n, d) := scaledDown numerator denominator exponent
    let significand := divideToEven n d
    let number : Binary64 :=
      if significand = 2 * leastNormal then ⟨leastNormal, exponent + 1⟩ else ⟨significand, exponent⟩
    if number.exponent ≤ greatestExponent then some number else none

/-- The numerator and the denominator of a number. -/
def fraction (number : Binary64) : Nat × Nat :=
  if 0 ≤ number.exponent then (number.significand * Nat.pow 2 number.exponent.toNat, 1)
  else (number.significand, Nat.pow 2 (-number.exponent).toNat)

/-- The product, rounded. -/
def mul (a b : Binary64) : Option Binary64 :=
  round (a.fraction.1 * b.fraction.1) (a.fraction.2 * b.fraction.2)

/-- The quotient, rounded. -/
def div (a b : Binary64) : Option Binary64 :=
  round (a.fraction.1 * b.fraction.2) (a.fraction.2 * b.fraction.1)

/-- The power of ten, rounded. -/
def powerOfTen (power : Nat) : Option Binary64 :=
  round (Nat.pow 10 power) 1

/-- The highest power of ten that the format holds. -/
def greatestPower : Nat := 308

/-- Divides by `10 ^ power` in at most `steps` steps of the highest power of ten that the
format holds, and one of what is left. -/
def divPowerOfTenIn (number : Binary64) : Nat → Nat → Option Binary64
  | 0, power => powerOfTen power >>= number.div
  | steps + 1, power =>
    if power ≤ greatestPower then powerOfTen power >>= number.div
    else if number.significand = 0 then some number
    else do
      let smaller ← powerOfTen greatestPower >>= number.div
      smaller.divPowerOfTenIn steps (power - greatestPower)

/-- Divides by `10 ^ power`. Each step rounds. -/
def divPowerOfTen (number : Binary64) (power : Nat) : Option Binary64 :=
  number.divPowerOfTenIn (power / greatestPower) power

/-- Multiplies by a power of ten. Both the power and the product are rounded, and a
product too large for the format is none. -/
def mulPowerOfTen (number : Binary64) (power : Nat) : Option Binary64 :=
  if power ≤ greatestPower then powerOfTen power >>= number.mul
  else if number.significand = 0 then some number
  else none

/-- Multiplies by a power of ten with any exponent. -/
def scaleByTen (number : Binary64) (power : Int) : Option Binary64 :=
  if 0 ≤ power then number.mulPowerOfTen power.toNat
  else number.divPowerOfTen (-power).toNat

/-- The numbers that round to a given one: a quarter of its last place is the unit, and
the ends belong to it exactly if its significand is even. -/
structure Neighbourhood where
  least : Nat
  value : Nat
  greatest : Nat
  closed : Bool
  /-- The number of units in the number one. -/
  unit : Nat

/-- The neighbourhood of a number. Below a power of two the numbers lie twice as close. -/
def neighbourhood (number : Binary64) : Neighbourhood :=
  let m := number.significand
  let below := if m = leastNormal && leastExponent < number.exponent then 1 else 2
  let exponent := number.exponent - 2
  let factor := if 0 ≤ exponent then Nat.pow 2 exponent.toNat else 1
  { least := (4 * m - below) * factor
    value := 4 * m * factor
    greatest := (4 * m + 2) * factor
    closed := m % 2 = 0
    unit := if 0 ≤ exponent then 1 else Nat.pow 2 (-exponent).toNat }

/-- The multiple of `10 ^ power` nearest to the value among those in the neighbourhood, as
the factor of that power; of two equally near ones the even factor. -/
def Neighbourhood.onGrid (near : Neighbourhood) (power : Int) : Option Nat :=
  let up := if 0 ≤ power then Nat.pow 10 power.toNat else 1
  let down := if 0 ≤ power then 1 else Nat.pow 10 (-power).toNat
  let step := near.unit * up
  let value := near.value * down
  let lower := value / step
  let holds (factor : Nat) : Bool :=
    if near.closed then
      near.least * down ≤ factor * step && factor * step ≤ near.greatest * down
    else near.least * down < factor * step && factor * step < near.greatest * down
  match holds lower, holds (lower + 1) with
  | false, false => none
  | true, false => some lower
  | false, true => some (lower + 1)
  | true, true =>
    let rest := 2 * (value % step)
    if rest < step then some lower
    else if step < rest then some (lower + 1)
    else if lower % 2 = 0 then some lower else some (lower + 1)

/-- Looks for the coarsest decimal grid, from `10 ^ power` down, that meets the
neighbourhood. -/
def Neighbourhood.search (near : Neighbourhood) : Nat → Int → Nat × Int
  | 0, power => (0, power)
  | fuel + 1, power =>
    match near.onGrid power with
    | some digits => (digits, power)
    | none => near.search fuel (power - 1)

/-- The decimal with the fewest digits that rounds to the number, with a sign. -/
def shortest (negative : Bool) (number : Binary64) : Decimal :=
  if number.significand = 0 then .zero negative
  else
    let near := number.neighbourhood
    let start : Nat := (near.value / near.unit).log2 / 3 + 1
    let (digits, exponent) := near.search (start + 330) start
    .ofDigits negative digits exponent

end Binary64

end ScriptLoader
