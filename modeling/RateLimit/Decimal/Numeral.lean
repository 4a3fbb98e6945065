import RateLimit.Decimal.Integer

/-!
# Numerals

A server reads a text as a number if it spells a numeral, decimal or hexadecimal, an infinity, or
a value that is no number, with white space around it.  A numeral is a sign, digits with at most
one point among them, and an optional power; it is given exactly, as a whole number times a power
of ten or of two, and rounding to a number format is left to that format.

A server ends every text at its first null character.

## Main definitions

* `Decimal.Numeral` : a numeral, with `decimal?` and `hexadecimal?`.
* `Decimal.Spelled` : what a text spells that is read as a number, with `Spelled.read?`.
-/

namespace RateLimit.Decimal

/-- What the digits of a numeral are multiplied by a power of. -/
inductive Base
  /-- Two, behind hexadecimal digits. -/
  | two
  /-- Ten, behind decimal digits. -/
  | ten
  deriving DecidableEq, Repr

/-- The base as a number. -/
def Base.toNat : Base → Nat
  | .two => 2
  | .ten => 10

/-- The number `± digits · base ^ exponent`. -/
structure Numeral where
  /-- Whether a minus sign stands in front. -/
  negative : Bool
  /-- The digits, read as a whole number. -/
  digits : Nat
  /-- What the power is a power of. -/
  base : Base
  /-- The power. -/
  exponent : Int
  deriving DecidableEq, Repr

namespace Numeral

/-- The digits at the front of a text, with at most one point among them: the digits, how many of
them stand behind the point, and the rest of the text. -/
def mantissa? (isDigit : Char → Bool) (text : List Char) : Option (List Char × Nat × List Char) :=
  let whole := text.takeWhile isDigit
  let rest := text.dropWhile isDigit
  let (fraction, rest) := match rest with
    | '.' :: cs => (cs.takeWhile isDigit, cs.dropWhile isDigit)
    | cs => ([], cs)
  if whole.isEmpty && fraction.isEmpty then none
  else some (whole ++ fraction, fraction.length, rest)

/-- The power at the end of a numeral: nothing, or a letter in either case and a whole number. -/
def exponent? (letter : Char) : List Char → Option Int
  | [] => some 0
  | c :: cs => if c.toLower = letter then integer? cs else none

/-- The decimal numeral without its sign. -/
def decimal? (negative : Bool) (text : List Char) : Option Numeral := do
  let (digits, places, rest) ← mantissa? Char.isDigit text
  let power ← exponent? 'e' rest
  return ⟨negative, (naturalFrom 0 digits).getD 0, .ten, power - places⟩

/-- What a hexadecimal digit in either case stands for. -/
def hexDigit? (c : Char) : Option Nat :=
  if c.isDigit then some (c.toNat - 48)
  else if 'a' ≤ c.toLower ∧ c.toLower ≤ 'f' then some (c.toLower.toNat - 87)
  else none

/-- The hexadecimal numeral without its sign.  Each digit behind the point counts four powers of
two. -/
def hexadecimal? (negative : Bool) : List Char → Option Numeral
  | '0' :: x :: text => do
      guard (x.toLower = 'x')
      let (digits, places, rest) ← mantissa? (fun c => (hexDigit? c).isSome) text
      let power ← exponent? 'p' rest
      let value := (digits.filterMap hexDigit?).foldl (fun n digit => 16 * n + digit) 0
      return ⟨negative, value, .two, power - 4 * places⟩
  | _ => none

end Numeral

/-- What a text spells that is read as a number. -/
inductive Spelled
  /-- A numeral. -/
  | numeral (n : Numeral)
  /-- An infinity. -/
  | infinity (negative : Bool)
  /-- A value that is no number. -/
  | nan
  deriving DecidableEq, Repr

namespace Spelled

/-- White space that may surround a spelled number. -/
def isBlank (c : Char) : Bool :=
  c = ' ' || ('\t' ≤ c && c ≤ '\r')

/-- A text without the white space around it. -/
def trim (text : List Char) : List Char :=
  ((text.dropWhile isBlank).reverse.dropWhile isBlank).reverse

/-- Whether a text in lower case names a value that is no number.  Letters and digits in brackets
may follow the name. -/
def isNan (name : List Char) : Bool :=
  match name with
  | ['n', 'a', 'n'] => true
  | 'n' :: 'a' :: 'n' :: '(' :: cs =>
      cs.getLast? = some ')' && cs.dropLast.all fun c => c.isAlphanum || c = '_'
  | _ => false

/-- The value without its sign that a text names in either case. -/
def named? (negative : Bool) (text : List Char) : Option Spelled :=
  let name := text.map Char.toLower
  if name = "inf".toList ∨ name = "infinity".toList then some (.infinity negative)
  else if isNan name then some .nan
  else none

/-- What a text spells behind its sign. -/
def unsigned? (negative : Bool) (text : List Char) : Option Spelled :=
  ((Numeral.decimal? negative text <|> Numeral.hexadecimal? negative text).map .numeral) <|>
    named? negative text

/-- What a text spells, white space around it aside. -/
def read? (text : String) : Option Spelled :=
  match trim (text.toList.takeWhile (· ≠ '\x00')) with
  | '-' :: cs => unsigned? true cs
  | '+' :: cs => unsigned? false cs
  | cs => unsigned? false cs

end Spelled

end RateLimit.Decimal
