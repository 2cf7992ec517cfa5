import SnapshotTypes.Yaml.Token
import SnapshotTypes.Document

/-!
What a plain scalar denotes: null, a boolean, a number or a text.
-/

set_option autoImplicit false

namespace SnapshotTypes.Yaml

open Document (Found Mismatch)
open Decimal (Binary64)

def isNullWord (text : String) : Bool :=
  text == "null" || text == "Null" || text == "NULL" || text == "~"

def boolean? (text : String) : Option Bool :=
  if text == "true" || text == "True" || text == "TRUE" then some true
  else if text == "false" || text == "False" || text == "FALSE" then some false
  else none

/-- The value of a digit in a base of sixteen at most. -/
def digit? (base : Nat) (c : Char) : Option Nat :=
  let value := if c.isDigit then c.toNat - 0x30
    else if 'a' ≤ c ∧ c ≤ 'f' then c.toNat - 0x57
    else if 'A' ≤ c ∧ c ≤ 'F' then c.toNat - 0x37
    else base
  if value < base then some value else none

/-- The number that a text of digits stands for. There has to be a digit. -/
def digits? (base : Nat) : List Char → Option Nat
  | [] => none
  | text => text.foldl (fun value c => do return (← value) * base + (← digit? base c)) (some 0)

/-- Digits with the letter of another base before them. -/
def prefixed? : List Char → Option Nat
  | '0' :: 'x' :: digits => digits? 16 digits
  | '0' :: 'o' :: digits => digits? 8 digits
  | '0' :: 'b' :: digits => digits? 2 digits
  | _ => none

/-- The text after a sign, if one begins it. -/
def unsigned (text : List Char) : List Char :=
  match text with
  | '+' :: rest => rest
  | '-' :: rest => rest
  | text => text

/-- Digits after a zero, which are no number. -/
def hasLeadingZero (text : List Char) : Bool :=
  match unsigned text with
  | '0' :: c :: rest => (c :: rest).all Char.isDigit
  | _ => false

/-- An integer of the stated magnitude at most. -/
def within? (negative : Bool) (limit value : Nat) : Option Int :=
  if limit < value then none else some (if negative then -value else value)

/-- Integers in decimal or another base, with a sign or without, of 128 bits at most. -/
def integer? (text : List Char) : Option Int :=
  let plain (text : List Char) : Option Nat :=
    (prefixed? text).or (if hasLeadingZero text then none else digits? 10 text)
  match text with
  | '-' :: rest => (plain rest).bind (within? true (Decimal.twoTo 127))
  | '+' :: rest => (plain rest).bind (within? false (Decimal.twoTo 128 - 1))
  | rest => (plain rest).bind (within? false (Decimal.twoTo 128 - 1))

/-- The exponent at the end of a number: a letter, a sign perhaps, and digits. -/
def exponent? : List Char → Option Int
  | [] => some 0
  | c :: rest =>
    if c = 'e' ∨ c = 'E' then
      match rest with
      | '-' :: digits => (digits? 10 digits).map fun value => -(value : Int)
      | '+' :: digits => (digits? 10 digits).map fun value => (value : Int)
      | digits => (digits? 10 digits).map fun value => (value : Int)
    else none

/-- Digits with a point among them or not, and an exponent perhaps. -/
def decimal? (negative : Bool) (text : List Char) : Option Binary64 :=
  let whole := text.takeWhile Char.isDigit
  let rest := text.dropWhile Char.isDigit
  let (fraction, rest) := match rest with
    | '.' :: rest => (rest.takeWhile Char.isDigit, rest.dropWhile Char.isDigit)
    | rest => ([], rest)
  match digits? 10 (whole ++ fraction), exponent? rest with
  | some digits, some exponent =>
    some (.ofDecimal negative digits (exponent - fraction.length))
  | _, _ => none

/-- The words for infinity, after a sign. -/
def isInfinityWord (text : List Char) : Bool :=
  text == ".inf".toList || text == ".Inf".toList || text == ".INF".toList

def isNanWord (text : List Char) : Bool :=
  text == ".nan".toList || text == ".NaN".toList || text == ".NAN".toList

/-- Floating-point numbers. A number too large for the format is none. -/
def float? (text : List Char) : Option Binary64 :=
  let negative := text.head? = some '-'
  if isInfinityWord (unsigned text) then some (.infinite negative)
  else if isNanWord text then some .nan
  else (decimal? negative (unsigned text)).filter fun number => !number.isInfinite

/-- The value of a plain scalar without a tag that tells it. -/
def plainValue (text : String) : Found :=
  let chars := text.toList
  if chars = [] ∨ isNullWord text then .null
  else
    match boolean? text with
    | some value => .boolean value
    | none =>
      match integer? chars with
      | some value => .integer value
      | none =>
        if hasLeadingZero chars then .text text
        else
          match float? chars with
          | some value => .float value
          | none => .text text

/-- A tag of the core schema. -/
def coreTag (name : String) : List Char :=
  ("tag:yaml.org,2002:" ++ name).toList

/-- The complaint about a scalar where something else is expected. A tag of the core schema
announces a value of its kind, which the text then has to be. -/
def scalarMismatch (tag : Option (List Char)) (text : String) (style : ScalarStyle)
    (expected : String) : Mismatch :=
  let announced (kind : String) : Option Found → Mismatch
    | some found => .wrongKind found expected
    | none => .wrongText text kind
  let untagged : Mismatch :=
    if style = .plain then .wrongKind (plainValue text) expected
    else .wrongKind (.text text) expected
  match tag with
  | none => untagged
  | some tag =>
    if tag = coreTag "bool" then announced "a boolean" ((boolean? text).map .boolean)
    else if tag = coreTag "int" then announced "an integer" ((integer? text.toList).map .integer)
    else if tag = coreTag "float" then announced "a float" ((float? text.toList).map .float)
    else if tag = coreTag "null" then
      announced "null" (if isNullWord text then some .null else none)
    else if tag.head? = some '!' then untagged
    else .wrongKind (.text text) expected

end SnapshotTypes.Yaml
