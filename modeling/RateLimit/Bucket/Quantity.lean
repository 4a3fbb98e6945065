import RateLimit.Decimal.Numeral

/-!
# Quantities

A token bucket computes with quantities that have fractions: tokens, and nanoseconds since the
epoch.  The bucket is written once for every kind of number that can be read from a numeral and
rounded to a whole number.  A server computes with doubles; with rational numbers the same bucket is
free of rounding.
-/

namespace RateLimit

/-- Numbers that a token bucket can compute with. -/
class Quantity (α : Type) where
  /-- The number nearest to what a numeral spells. -/
  ofNumeral : Decimal.Numeral → α
  /-- The infinity of a sign, if there is one. -/
  infinity? (negative : Bool) : Option α
  /-- The value that is no number, if there is one. -/
  nan? : Option α
  /-- The greatest whole number that is not greater. -/
  floor : α → α
  /-- The number without its fraction, as a 64-bit word; out of range, the nearest word. -/
  toInt64 : α → Int64

namespace Quantity

/-- A natural number as a quantity. -/
def ofNat {α : Type} [Quantity α] (n : Nat) : α :=
  ofNumeral ⟨false, n, .ten, 0⟩

/-- What a text spells that is read as a number, as a quantity. -/
def ofSpelled? {α : Type} [Quantity α] : Decimal.Spelled → Option α
  | .numeral n => some (ofNumeral n)
  | .infinity negative => infinity? negative
  | .nan => nan?

end Quantity

namespace Decimal

/-- What a base has to be multiplied by to get ten. -/
def Base.toTen : Base → Nat
  | .two => 5
  | .ten => 1

/-- A power of the base beyond all doubles; one divided by it is below all doubles but zero. -/
def Base.reach : Base → Int
  | .two => 1300
  | .ten => 400

/-- The double nearest to what a numeral spells.

A numeral with digits beyond the range of doubles is settled by the place of its first digit, so
that no great power of its base has to be computed. -/
def Numeral.toFloat (n : Numeral) : Float :=
  let place : Int := (Nat.toDigits n.base.toNat n.digits).length + n.exponent
  let magnitude : Float :=
    if n.digits = 0 then 0
    else if n.base.reach < place then 1 / 0
    else if place < -n.base.reach then 0
    else if 0 ≤ n.exponent then
      Float.ofScientific (n.digits * Nat.pow n.base.toNat n.exponent.toNat) false 0
    else
      let places := (-n.exponent).toNat
      Float.ofScientific (n.digits * Nat.pow n.base.toTen places) true places
  if n.negative then -magnitude else magnitude

/-- The rational number that a numeral spells. -/
def Numeral.toRat (n : Numeral) : Rat :=
  let magnitude := mkRat (n.digits * Nat.pow n.base.toNat n.exponent.toNat)
    (Nat.pow n.base.toNat (-n.exponent).toNat)
  if n.negative then -magnitude else magnitude

end Decimal

/-- The nearest 64-bit word to a whole number. -/
def clampInt64 (n : Int) : Int64 :=
  if n < Int64.minValue.toInt then Int64.minValue
  else if Int64.maxValue.toInt < n then Int64.maxValue
  else Int64.ofInt n

/-- Doubles, as a server computes with them. -/
instance : Quantity Float where
  ofNumeral := Decimal.Numeral.toFloat
  infinity? negative := some (if negative then -(1 / 0) else 1 / 0)
  nan? := some (0 / 0)
  floor := Float.floor
  toInt64 := Float.toInt64

/-- Rational numbers, free of rounding.  None of them is infinite. -/
instance : Quantity Rat where
  ofNumeral := Decimal.Numeral.toRat
  infinity? _ := none
  nan? := none
  floor x := x.floor
  toInt64 x := clampInt64 (if x < 0 then -(-x).floor else x.floor)

end RateLimit
