/-!
# The shortest decimal of a double

A double stands for every real number that rounds to it.  Its text is the decimal with the fewest
digits among those numbers; of two with equally few digits the one nearer to the double, and the
greater if both are equally near.  It is written without a power of ten, and without a point if it
is a whole number.

The search is exact: a positive double is `m · 2 ^ q`, and the numbers that round to it reach half
a step to either side, ends included when `m` is even.  For one digit, two digits and so on the two
neighbours of the double on that decimal grid are tried.

## Main definitions

* `Decimal.Binary` : a double taken apart.
* `Decimal.shortest` : the digits and the power of ten of the shortest decimal.
* `Decimal.ofFloat` : the text of a double.
-/

namespace RateLimit.Decimal

/-- A positive number `mantissa · 2 ^ exponent`, as a double holds it. -/
structure Binary where
  /-- The significant bits. -/
  mantissa : Nat
  /-- The power of two. -/
  exponent : Int
  /-- Whether the step below is half as long as the step above. -/
  narrow : Bool
  deriving DecidableEq, Repr

/-- The least mantissa of a double of full precision: `2 ^ 52`. -/
def Binary.unit : Nat := 4503599627370496

/-- The magnitude of a finite double, from the 63 bits below its sign. -/
def Binary.ofBits (bits : Nat) : Binary :=
  let fraction : Nat := bits % unit
  let biased : Nat := bits / unit % 2048
  if biased = 0 then ⟨fraction, -1074, false⟩
  else ⟨unit + fraction, (biased : Int) - 1075, fraction = 0 && 1 < biased⟩

/-- A decimal `digits · 10 ^ exponent`. -/
structure Grid where
  /-- The digits, as a whole number. -/
  digits : Nat
  /-- The power of ten. -/
  exponent : Int
  deriving DecidableEq, Repr

namespace Binary

/-- The factors `(a, b)` with `2 ^ (exponent - 2) / 10 ^ t = a / b`. -/
private def ratio (x : Binary) (t : Int) : Nat × Nat :=
  let u := x.exponent - 2
  (Nat.pow 2 u.toNat * Nat.pow 10 (-t).toNat, Nat.pow 2 (-u).toNat * Nat.pow 10 t.toNat)

/-- The decimal on the grid of `10 ^ t` that rounds to the double: the nearer of its two
neighbours there, the greater of two equally near. -/
def onGrid? (x : Binary) (t : Int) : Option Grid :=
  let (a, b) := x.ratio t
  let middle := 4 * x.mantissa * a
  let least := (4 * x.mantissa - if x.narrow then 1 else 2) * a
  let greatest := (4 * x.mantissa + 2) * a
  let rounds (c : Nat) : Bool :=
    if x.mantissa % 2 = 0 then least ≤ c * b && c * b ≤ greatest
    else least < c * b && c * b < greatest
  let below := middle / b
  let above := below + 1
  match rounds below, rounds above with
  | true, true =>
      if above * b - middle ≤ middle - below * b then some ⟨above, t⟩ else some ⟨below, t⟩
  | true, false => some ⟨below, t⟩
  | false, true => some ⟨above, t⟩
  | false, false => none

/-- The power of ten just above the number: `10 ^ (e - 1) ≤ x < 10 ^ e`. -/
def magnitude (x : Binary) : Int :=
  let (a, b) := x.ratio (-340)
  ((Nat.toDigits 10 (4 * x.mantissa * a / b)).length : Int) - 340

/-- The first grid with a decimal that rounds to the double, from the grid of `10 ^ t` on. -/
def firstGrid (x : Binary) : Nat → Int → Grid
  | 0, t => ⟨0, t⟩
  | steps + 1, t =>
      match x.onGrid? t with
      | some g => g
      | none => firstGrid x steps (t - 1)

/-- The shortest decimal of a double.  Seventeen digits suffice for every double. -/
def shortest (x : Binary) : Grid :=
  x.firstGrid 17 (x.magnitude - 1)

end Binary

/-- A decimal whose digits do not end in zeros behind the point. -/
def Grid.stripped : Nat → Grid → Grid
  | 0, g => g
  | steps + 1, g =>
      if g.exponent < 0 && g.digits % 10 = 0 then stripped steps ⟨g.digits / 10, g.exponent + 1⟩
      else g

/-- A decimal written without a power of ten. -/
def Grid.text (g : Grid) : String :=
  let digits := Nat.toDigits 10 g.digits
  if 0 ≤ g.exponent then
    String.ofList (digits ++ List.replicate g.exponent.toNat '0')
  else
    let places := (-g.exponent).toNat
    let digits := List.replicate (places + 1 - digits.length) '0' ++ digits
    let point := digits.length - places
    String.ofList (digits.take point ++ '.' :: digits.drop point)

/-- The text of a double. -/
def ofFloat (x : Float) : String :=
  let bits := x.toBits.toNat
  let negative := 2048 * Binary.unit ≤ bits
  let sign := if negative then "-" else ""
  let magnitude := bits % (2048 * Binary.unit)
  if x.isNaN then "NaN"
  else if x.isInf then sign ++ "inf"
  else if magnitude = 0 then sign ++ "0"
  else sign ++ ((Binary.ofBits magnitude).shortest.stripped 17).text

end RateLimit.Decimal
