import SnapshotTypes.Json.Text

/-!
Numbers of JSON: their text, and the value that complaints show.
-/

set_option autoImplicit false

namespace SnapshotTypes.Json

open Decimal (Binary64)
open Document (Found)

structure NumberText where
  whole : List Char
  fraction : Option (List Char)
  /-- Whether the exponent is negative, and its digits. -/
  exponent : Option (Bool × List Char)

/-- The digits that a text begins with, and the rest. -/
def takeDigits (text : List Char) : List Char × List Char :=
  (text.takeWhile Char.isDigit, text.dropWhile Char.isDigit)

/-- Reads a digit and those after it. `atEnd` is the complaint if the text ends instead. -/
def readDigits (atEnd : Malformation) (text : List Char) :
    Except Fault (List Char × List Char) :=
  match takeDigits text with
  | ([], []) => .error (.before atEnd [])
  | ([], rest) => .error (.next .invalidNumber rest)
  | digits => .ok digits

/-- The whole part: no digit may follow a leading zero. -/
def readWhole (atEnd : Malformation) (text : List Char) :
    Except Fault (List Char × List Char) :=
  match text with
  | '0' :: rest =>
    match rest with
    | c :: _ => if c.isDigit then .error (.next .invalidNumber rest) else .ok (['0'], rest)
    | [] => .ok (['0'], rest)
  | _ => readDigits atEnd text

/-- The fraction, if a point begins it. -/
def readFraction (atEnd : Malformation) (text : List Char) :
    Except Fault (Option (List Char) × List Char) :=
  match text with
  | '.' :: rest =>
    match readDigits atEnd rest with
    | .error fault => .error fault
    | .ok (digits, rest) => .ok (some digits, rest)
  | _ => .ok (none, text)

/-- The exponent, if a letter begins it. -/
def readExponent (atEnd : Malformation) (text : List Char) :
    Except Fault (Option (Bool × List Char) × List Char) :=
  match text with
  | c :: rest =>
    if c = 'e' ∨ c = 'E' then
      let (negative, digits) := match rest with
        | '-' :: digits => (true, digits)
        | '+' :: digits => (false, digits)
        | digits => (false, digits)
      match readDigits atEnd digits with
      | .error fault => .error fault
      | .ok (digits, rest) => .ok (some (negative, digits), rest)
    else .ok (none, text)
  | [] => .ok (none, text)

def readNumberText (atEnd : Malformation) (text : List Char) :
    Except Fault (NumberText × List Char) := do
  let (whole, rest) ← readWhole atEnd text
  let (fraction, rest) ← readFraction atEnd rest
  let (exponent, rest) ← readExponent atEnd rest
  .ok (⟨whole, fraction, exponent⟩, rest)

def digitValue (c : Char) : Nat :=
  c.toNat - 0x30

/-- Appends digits to a number as long as it stays below a bound, and gives the digits left. -/
def appendDigits (bound : Nat) (number : Nat) : List Char → Nat × List Char
  | [] => (number, [])
  | c :: rest =>
    let next := number * 10 + digitValue c
    if next < bound then appendDigits bound next rest else (number, c :: rest)

/-- Significands are kept to 64 bits: further digits count by their number only. -/
def significandBound : Nat := Decimal.twoTo 64

/-- Exponents are kept to 31 bits: a greater one makes the number zero or too large. -/
def exponentBound : Nat := Decimal.twoTo 31

/-- Multiplies by a power of ten in steps of a single rounding each: `none` if the result is too
large. Below the least power of the format the division takes two steps or more. -/
def scaled (significand : Binary64) (exponent : Int) : Option Binary64 :=
  if 308 < exponent then (if significand.isZero then some significand else none)
  else if 0 ≤ exponent then
    let product := significand.mul (.ofNat (Decimal.tenTo exponent.toNat))
    if product.isInfinite then none else some product
  else descend 3 significand (-exponent).toNat
where
  /-- Three steps leave nothing of any significand. -/
  descend : Nat → Binary64 → Nat → Option Binary64
    | 0, _, _ => some (.zero false)
    | steps + 1, number, power =>
      if power ≤ 308 then some (number.div (.ofNat (Decimal.tenTo power)))
      else descend steps (number.div (.ofNat (Decimal.tenTo 308))) (power - 308)

def signed (negative : Bool) (number : Binary64) : Binary64 :=
  if negative then number.negate else number

/-- The exponent with its sign, or the digits that are left where it grew too large. -/
def exponentValue : Option (Bool × List Char) → Except (Bool × List Char) Int
  | none => .ok 0
  | some (negative, digits) =>
    match appendDigits exponentBound 0 digits with
    | (value, []) => .ok (if negative then -value else value)
    | (_, left) => .error (negative, left.tail)

/-- The value of a number whose text ends at `rest`. Whole numbers that fit 64 bits are integers,
except that there is no negative zero among them. -/
def NumberText.found (number : NumberText) (negative : Bool) (rest : List Char) :
    Except Fault Found :=
  let (significand, wholeLeft) := appendDigits significandBound 0 number.whole
  let outOfRange (left : List Char) : Except Fault Found :=
    .error (.before .numberOutOfRange (left ++ rest))
  match number.fraction, number.exponent, wholeLeft with
  | none, none, [] =>
    if !negative then .ok (.integer significand)
    else if 0 < significand ∧ significand ≤ Decimal.twoTo 63 then .ok (.integer (-significand))
    else .ok (.float (signed true (.ofNat significand)))
  | _, _, _ =>
    let fraction := number.fraction.getD []
    let (significand, fractionLeft) := appendDigits significandBound significand fraction
    let shift : Int := (wholeLeft.length : Int) - (fraction.length - fractionLeft.length : Nat)
    match exponentValue number.exponent with
    | .error (exponentNegative, left) =>
      if significand ≠ 0 ∧ !exponentNegative then outOfRange left
      else .ok (.float (.zero negative))
    | .ok exponent =>
      match scaled (.ofNat significand) (shift + exponent) with
      | none => outOfRange []
      | some magnitude => .ok (.float (signed negative magnitude))

/-- Reads a number for its value. -/
def readNumber (negative : Bool) (text : List Char) : Except Fault (Found × List Char) := do
  let (number, rest) ← readNumberText .endInValue text
  let found ← number.found negative rest
  .ok (found, rest)

/-- Skips a number whose value does not matter: its size is not looked at. -/
def skipNumber (text : List Char) : Except Fault (List Char) :=
  match readNumberText .invalidNumber text with
  | .error fault => .error fault
  | .ok (_, rest) => .ok rest

end SnapshotTypes.Json
