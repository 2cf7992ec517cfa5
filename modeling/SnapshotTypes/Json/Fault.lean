import SnapshotTypes.Document

/-!
Faults of a JSON document. A fault keeps the text that was left when it was met, so that readers
need not count; the position is worked out from the whole document at the end.
-/

set_option autoImplicit false

namespace SnapshotTypes.Json

open Document (Mismatch Wording Path Step Failure)

inductive Malformation where
  | endInList
  | endInObject
  | endInString
  | endInValue
  | expectedColon
  | expectedListCommaOrEnd
  | expectedObjectCommaOrEnd
  | expectedWord
  | expectedValue
  | invalidEscape
  | invalidNumber
  | numberOutOfRange
  | controlCharacter
  | keyNotText
  | loneSurrogate
  | trailingComma
  | trailingCharacters
  | unfinishedSurrogatePair
deriving DecidableEq, Repr

def Malformation.message : Malformation → String
  | endInList => "EOF while parsing a list"
  | endInObject => "EOF while parsing an object"
  | endInString => "EOF while parsing a string"
  | endInValue => "EOF while parsing a value"
  | expectedColon => "expected `:`"
  | expectedListCommaOrEnd => "expected `,` or `]`"
  | expectedObjectCommaOrEnd => "expected `,` or `\x7d`"
  | expectedWord => "expected ident"
  | expectedValue => "expected value"
  | invalidEscape => "invalid escape"
  | invalidNumber => "invalid number"
  | numberOutOfRange => "number out of range"
  | controlCharacter => "control character (\\u0000-\\u001F) found while parsing a string"
  | keyNotText => "key must be a string"
  | loneSurrogate => "lone leading surrogate in hex escape"
  | trailingComma => "trailing comma"
  | trailingCharacters => "trailing characters"
  | unfinishedSurrogatePair => "unexpected end of hex escape"

inductive Cause where
  | malformed (malformation : Malformation)
  | mismatch (mismatch : Mismatch)
deriving DecidableEq, Repr

/-- A place in the document: the bytes numbered `beyond` of the text that is left there belong to
what was read. The text may be shorter than that. -/
structure Place where
  rest : List Char
  beyond : Nat
deriving DecidableEq, Repr

structure Fault where
  cause : Cause
  place : Place
  path : Path
deriving DecidableEq, Repr

/-- A fault of the text before `rest`. -/
def Fault.before (malformation : Malformation) (rest : List Char) : Fault :=
  ⟨.malformed malformation, ⟨rest, 0⟩, []⟩

/-- A fault that the next character shows. -/
def Fault.next (malformation : Malformation) (rest : List Char) : Fault :=
  ⟨.malformed malformation, ⟨rest, 1⟩, []⟩

def Fault.mismatched (mismatch : Mismatch) (rest : List Char) : Fault :=
  ⟨.mismatch mismatch, ⟨rest, 0⟩, []⟩

/-- A fault of an inner value, seen from outside. -/
def Fault.within (fault : Fault) (step : Step) : Fault :=
  { fault with path := step :: fault.path }

/-- Names the step that leads to a value whose reading failed. -/
def within {α : Type} (step : Step) : Except Fault α → Except Fault α
  | .error fault => .error (fault.within step)
  | .ok value => .ok value

/-- Lines count from one and columns from zero, in bytes. -/
structure Position where
  line : Nat
  column : Nat
deriving DecidableEq, Repr

namespace Position

def start : Position := ⟨1, 0⟩

def afterChar (position : Position) (c : Char) : Position :=
  if c = '\n' then ⟨position.line + 1, 0⟩ else ⟨position.line, position.column + c.utf8Size⟩

/-- The position after a number of bytes, which may end inside a character or beyond the text. -/
def afterBytes (position : Position) : Nat → List Char → Position
  | _, [] => position
  | count, c :: rest =>
    if count = 0 then position
    else if c.utf8Size ≤ count then (position.afterChar c).afterBytes (count - c.utf8Size) rest
    else ⟨position.line, position.column + count⟩

def ofPlace (document : List Char) (place : Place) : Position :=
  let before := document.take (document.length - place.rest.length)
  (before.foldl afterChar start).afterBytes place.beyond place.rest

end Position

/-- Null is written as in the text. Numbers turn to an exponent from `1e+16` up and below `1e-5`,
and a tie goes to the even digit. -/
def wording : Wording where
  null := "null"
  float := ⟨.toEven, fun magnitude => -5 ≤ magnitude && magnitude ≤ 15⟩

def Cause.message : Cause → String
  | .malformed malformation => malformation.message
  | .mismatch complaint => complaint.message wording

def Fault.failure (document : List Char) (fault : Fault) : Failure :=
  let position := Position.ofPlace document fault.place
  { path := fault.path
    message := fault.cause.message ++ " at line " ++ toString position.line ++
      " column " ++ toString position.column }

end SnapshotTypes.Json
