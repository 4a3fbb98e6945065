import RateLimit.Text.Utf8

/-!
# Whole numbers in decimal

Reading of whole numbers: an optional sign and one or more of the digits `0` to `9`, leading
zeros included, nothing else.  A number outside the range asked for is refused like any other
misspelling.

## Main definitions

* `Decimal.natural?` : digits alone.
* `Decimal.unsigned?` : an optional plus sign, below a bound.
* `Decimal.int64?` : either sign, in the range of 64-bit words.
-/

namespace RateLimit.Decimal

/-- The number that digits continue from `n`; `none` if one of them is no digit. -/
def naturalFrom : Nat → List Char → Option Nat
  | n, [] => some n
  | n, c :: cs => if c.isDigit then naturalFrom (n * 10 + (c.toNat - 48)) cs else none

/-- The number spelled by one or more digits. -/
def natural? : List Char → Option Nat
  | [] => none
  | c :: cs => naturalFrom 0 (c :: cs)

/-- The number below `bound` spelled by digits with an optional plus sign before them. -/
def unsigned? (bound : Nat) (text : List Char) : Option Nat :=
  let digits := match text with
    | '+' :: cs => cs
    | cs => cs
  (natural? digits).filter (· < bound)

/-- The whole number spelled by digits with an optional sign before them. -/
def integer? : List Char → Option Int
  | '+' :: cs => (natural? cs).map Int.ofNat
  | '-' :: cs => (natural? cs).map fun n => -Int.ofNat n
  | cs => (natural? cs).map Int.ofNat

/-- The 64-bit word spelled by digits with an optional sign before them. -/
def int64? (text : List Char) : Option Int64 :=
  ((integer? text).filter fun n => Int64.minValue.toInt ≤ n ∧ n ≤ Int64.maxValue.toInt).map
    Int64.ofInt

/-- The characters of a byte string that is read as ASCII; other bytes become characters that are
no digits, signs or letters of ASCII. -/
def asciiChars (bytes : Bytes) : List Char :=
  bytes.map fun b => Char.ofNat b.toNat

end RateLimit.Decimal
