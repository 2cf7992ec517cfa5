/-!
Binary floating-point numbers of double precision in exact arithmetic, and the decimal texts that
read back as them.
-/

set_option autoImplicit false

namespace SnapshotTypes.Decimal

def twoTo (exponent : Nat) : Nat := Nat.pow 2 exponent

def tenTo (exponent : Nat) : Nat := Nat.pow 10 exponent

/-!
## Binary numbers

Every operation is the exact quotient or product followed by one rounding.
-/

/-- A finite number is `mantissa * 2 ^ exponent` with its sign, where zero has one of either sign.
A mantissa below `2 ^ 52` occurs with the least exponent only. -/
inductive Binary64 where
  | finite (negative : Bool) (mantissa : Nat) (exponent : Int)
  | infinite (negative : Bool)
  | nan
deriving DecidableEq, Repr

namespace Binary64

def minExponent : Int := -1074

def maxExponent : Int := 971

def zero (negative : Bool) : Binary64 :=
  .finite negative 0 minExponent

def isZero : Binary64 → Bool
  | .finite _ mantissa _ => mantissa == 0
  | _ => false

def isInfinite : Binary64 → Bool
  | .infinite _ => true
  | _ => false

def negate : Binary64 → Binary64
  | .finite negative mantissa exponent => .finite (!negative) mantissa exponent
  | .infinite negative => .infinite (!negative)
  | .nan => .nan

/-- The quotient rounded to the nearest whole number, a half to the even neighbour. -/
def roundedQuotient (numerator denominator : Nat) : Nat :=
  let quotient := numerator / denominator
  let remainder := numerator % denominator
  if 2 * remainder < denominator then quotient
  else if denominator < 2 * remainder then quotient + 1
  else quotient + quotient % 2

/-- The fraction `numerator / (denominator * 2 ^ exponent)` with whole parts. -/
def unscaled (numerator denominator : Nat) (exponent : Int) : Nat × Nat :=
  (numerator * twoTo (-exponent).toNat, denominator * twoTo exponent.toNat)

/-- The exponent that gives a quotient a mantissa of 53 bits, or the least one if the quotient is
too small for that. -/
def exponentFor (numerator denominator : Nat) : Int :=
  let guess : Int := (numerator.log2 : Int) - denominator.log2 - 52
  let (top, bottom) := unscaled numerator denominator guess
  let fitted := if top < bottom * twoTo 52 then guess - 1 else guess
  max fitted minExponent

/-- The number nearest to a quotient, a tie to the even mantissa. Quotients beyond the greatest
finite number become infinite. -/
def ofRatio (negative : Bool) (numerator denominator : Nat) : Binary64 :=
  if numerator = 0 then zero negative
  else
    let exponent := exponentFor numerator denominator
    let (top, bottom) := unscaled numerator denominator exponent
    let mantissa := roundedQuotient top bottom
    let (mantissa, exponent) :=
      if mantissa = twoTo 53 then (twoTo 52, exponent + 1) else (mantissa, exponent)
    if maxExponent < exponent then .infinite negative
    else .finite negative mantissa exponent

def ofNat (value : Nat) : Binary64 :=
  ofRatio false value 1

/-- The product of two numbers that are not negative. -/
def mul : Binary64 → Binary64 → Binary64
  | .finite _ first firstExponent, .finite _ second secondExponent =>
    let exponent := firstExponent + secondExponent
    ofRatio false (first * second * twoTo exponent.toNat) (twoTo (-exponent).toNat)
  | .nan, _ => .nan
  | _, .nan => .nan
  | _, _ => .infinite false

/-- The quotient of two numbers that are not negative, the second finite and not zero. -/
def div : Binary64 → Binary64 → Binary64
  | .finite _ first firstExponent, .finite _ second secondExponent =>
    let exponent := firstExponent - secondExponent
    ofRatio false (first * twoTo exponent.toNat) (second * twoTo (-exponent).toNat)
  | number, _ => number

/-- The number nearest to `digits * 10 ^ exponent`. Powers beyond the range of the format are not
computed. -/
def ofDecimal (negative : Bool) (digits : Nat) (exponent : Int) : Binary64 :=
  let length := ((Nat.toDigits 10 digits).length : Int)
  if digits = 0 || length + exponent < -330 then zero negative
  else if 310 < length + exponent then .infinite negative
  else ofRatio negative (digits * tenTo exponent.toNat) (tenTo (-exponent).toNat)

end Binary64

/-!
## Shortest digits

The fewest decimal digits that read back as a given binary number, and of those the nearest.
-/

/-- Which of two decimals is taken when both are equally near. -/
inductive Tie where
  | toEven
  | up
deriving DecidableEq, Repr

/-- The decimal `digits * 10 ^ exponent`. -/
structure Digits where
  digits : Nat
  exponent : Int
deriving DecidableEq, Repr

/-- The reals that round to a positive number, as multiples of `1 / denominator` on a decimal
grid: the number is `value / denominator` steps of the grid. -/
structure Interval where
  low : Nat
  value : Nat
  high : Nat
  denominator : Nat
  inclusive : Bool

/-- The interval of `mantissa * 2 ^ exponent` on the grid of multiples of `10 ^ power`. The lower
half is narrower where the mantissa is the least one of its exponent. -/
def Interval.of (mantissa : Nat) (exponent power : Int) : Interval :=
  let quarter := exponent - 2
  let scale := twoTo quarter.toNat * tenTo (-power).toNat
  let lower := if mantissa = twoTo 52 ∧ Binary64.minExponent < exponent then 1 else 2
  { low := (4 * mantissa - lower) * scale
    value := 4 * mantissa * scale
    high := (4 * mantissa + 2) * scale
    denominator := twoTo (-quarter).toNat * tenTo power.toNat
    inclusive := mantissa % 2 = 0 }

def Interval.contains (interval : Interval) (steps : Nat) : Bool :=
  let point := steps * interval.denominator
  if interval.inclusive then interval.low ≤ point && point ≤ interval.high
  else interval.low < point && point < interval.high

/-- The point of the grid nearest to the number among those that read back as it. -/
def Interval.nearest? (interval : Interval) (tie : Tie) : Option Nat :=
  let below := interval.value / interval.denominator
  let remainder := interval.value % interval.denominator
  match interval.contains below, interval.contains (below + 1) with
  | false, false => none
  | true, false => some below
  | false, true => some (below + 1)
  | true, true =>
    if 2 * remainder < interval.denominator then some below
    else if interval.denominator < 2 * remainder then some (below + 1)
    else match tie with
      | .toEven => some (below + below % 2)
      | .up => some (below + 1)

/-- Tries the grids from the coarsest to finer ones, `count` of them. -/
def shortestFrom (tie : Tie) (mantissa : Nat) (exponent : Int) : Nat → Int → Digits
  | 0, power => ⟨mantissa, power⟩
  | count + 1, power =>
    match (Interval.of mantissa exponent power).nearest? tie with
    | some digits => ⟨digits, power⟩
    | none => shortestFrom tie mantissa exponent count (power - 1)

def dropZeros : Nat → Digits → Digits
  | 0, digits => digits
  | count + 1, digits =>
    if digits.digits ≠ 0 ∧ digits.digits % 10 = 0 then
      dropZeros count ⟨digits.digits / 10, digits.exponent + 1⟩
    else digits

/-- The digits of a positive number. The first grid is too coarse for it, and seventeen digits
always suffice, so that twenty-two grids reach one that holds an answer. -/
def shortest (tie : Tie) (mantissa : Nat) (exponent : Int) : Digits :=
  let magnitude := (mantissa.log2 : Int) + exponent
  let power := Int.fdiv (magnitude * 30103) 100000 + 2
  dropZeros 22 (shortestFrom tie mantissa exponent 22 power)

/-!
## Decimal texts

Positional, or with an exponent where the format asks for it.
-/

/-- The choices that a format leaves open. -/
structure Style where
  tie : Tie
  /-- Whether a number whose first digit stands for `10 ^ magnitude` is written positionally. -/
  positional : Int → Bool

def zeros (count : Nat) : List Char :=
  List.replicate count '0'

/-- Digits with a point after the first `point` of them, filled up with zeros on either side. At
least one digit stands on each side of the point. -/
def withPoint (digits : List Char) (point : Int) : List Char :=
  if point ≤ 0 then '0' :: '.' :: zeros (-point).toNat ++ digits
  else if digits.length ≤ point.toNat then
    digits ++ zeros (point.toNat - digits.length) ++ ['.', '0']
  else digits.take point.toNat ++ '.' :: digits.drop point.toNat

/-- The first digit, the others after a point if there are any, and the signed exponent. -/
def withExponent (digits : List Char) (magnitude : Int) : List Char :=
  let significand := match digits with
    | first :: second :: rest => first :: '.' :: second :: rest
    | short => short
  significand ++ 'e' :: (if magnitude < 0 then '-' else '+') ::
    Nat.toDigits 10 magnitude.natAbs

def Style.magnitude (style : Style) (mantissa : Nat) (exponent : Int) : List Char :=
  if mantissa = 0 then ['0', '.', '0']
  else
    let decimal := shortest style.tie mantissa exponent
    let digits := Nat.toDigits 10 decimal.digits
    let point := (digits.length : Int) + decimal.exponent
    if style.positional (point - 1) then withPoint digits point
    else withExponent digits (point - 1)

def Style.write (style : Style) : Binary64 → String
  | .finite negative mantissa exponent =>
    String.ofList ((if negative then ['-'] else []) ++ style.magnitude mantissa exponent)
  | .infinite negative => if negative then "-inf" else "inf"
  | .nan => "NaN"

end SnapshotTypes.Decimal
