import ScriptLoader.Number.Binary64

/-!
# Numbers of a data format

A number is a whole number that fits 64 bits, with or without a sign, or else a decimal.
`ofParts` reads the digits of a written number: the significand takes digits as long as it
fits 64 bits, and is then scaled by a power of ten with rounding in each step.
-/

namespace ScriptLoader

/-- A number as a data format holds it. -/
inductive Number where
  /-- A whole number from 0 up. -/
  | natural (value : Nat)
  /-- A whole number below 0, by its absolute value. -/
  | negative (value : Nat)
  /-- Any other number, by the shortest decimal that stands for it. -/
  | decimal (value : Decimal)
  deriving DecidableEq, Repr

namespace Number

/-- Whether the number is zero, with either sign. -/
def isZero : Number → Bool
  | natural value => value = 0
  | negative value => value = 0
  | decimal value => value.isZero

/-- The text of a number as a list of characters. -/
def chars : Number → List Char
  | natural value => Nat.toDigits 10 value
  | negative value => '-' :: Nat.toDigits 10 value
  | decimal value => value.chars

/-- The text of a number. -/
def text (number : Number) : String :=
  String.ofList number.chars

/-- A whole number with a sign, if it fits the 64 bits of its kind. -/
def ofInt (value : Int) : Number :=
  if 0 ≤ value then .natural value.toNat else .negative value.natAbs

/-- The digits of a written number. -/
structure Written where
  negative : Bool
  /-- The digits before the point. -/
  whole : List Nat
  /-- The digits after the point. -/
  fraction : List Nat
  /-- The exponent, if one is written. -/
  exponent : Option Int
  /-- Whether a point is written. -/
  pointed : Bool

/-- Adds digits to a significand as long as it fits 64 bits, and gives the digits left. -/
def takeDigits (significand : Nat) : List Nat → Nat × List Nat
  | [] => (significand, [])
  | digit :: rest =>
    if significand * 10 + digit < 0x10000000000000000 then takeDigits (significand * 10 + digit) rest
    else (significand, digit :: rest)

/-- The decimal nearest to `significand * 10 ^ exponent`, or none if that is too large. -/
def scaled (negative : Bool) (significand : Nat) (exponent : Int) : Option Number := do
  let number ← Binary64.round significand 1
  let number ← number.scaleByTen exponent
  return .decimal (number.shortest negative)

/-- The number that is written, or none if it is too large. -/
def ofWritten (written : Written) : Option Number :=
  let (significand, left) := takeDigits 0 written.whole
  if left = [] && !written.pointed && written.exponent.isNone then
    if !written.negative then some (.natural significand)
    else if 0 < significand && significand ≤ 0x8000000000000000 then some (.negative significand)
    else scaled true significand 0
  else
    let (all, unread) := takeDigits significand written.fraction
    let places : Int := written.fraction.length - unread.length
    scaled written.negative all (left.length - places + written.exponent.getD 0)

end Number

end ScriptLoader
