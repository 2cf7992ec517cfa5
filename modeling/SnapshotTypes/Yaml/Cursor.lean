/-!
Places in a YAML text, and the characters that structure it.
-/

set_option autoImplicit false

namespace SnapshotTypes.Yaml

/-- Counts from zero, in characters. -/
structure Mark where
  index : Nat
  line : Nat
  column : Nat
deriving DecidableEq, Repr

def Mark.start : Mark := ⟨0, 0, 0⟩

def Mark.right (mark : Mark) (count : Nat) : Mark :=
  ⟨mark.index + count, mark.line, mark.column + count⟩

/-- The start of the next line after a break of `count` characters. -/
def Mark.down (mark : Mark) (count : Nat) : Mark :=
  ⟨mark.index + count, mark.line + 1, 0⟩

def isBreak (c : Char) : Bool :=
  c == '\n' || c == '\r' || c == '\x85' || c == '\u2028' || c == '\u2029'

def isBlank (c : Char) : Bool :=
  c == ' ' || c == '\t'

/-- The characters of names: ASCII letters and digits, the underscore and the hyphen. -/
def isNameChar (c : Char) : Bool :=
  c.isAlphanum || c == '_' || c == '-'

/-- Whether a text is at its end, at a blank or at a line break. -/
def atBlank : List Char → Bool
  | [] => true
  | c :: _ => isBlank c || isBreak c

/-- Whether a text is at its end or at a line break. -/
def atBreak : List Char → Bool
  | [] => true
  | c :: _ => isBreak c

/-- The text that is left, and its place. -/
structure Cursor where
  mark : Mark
  rest : List Char

namespace Cursor

def start (text : List Char) : Cursor := ⟨.start, text⟩

def column (cursor : Cursor) : Nat := cursor.mark.column

/-- Moves over characters that are no line breaks. -/
def skip (cursor : Cursor) (count : Nat) : Cursor :=
  ⟨cursor.mark.right count, cursor.rest.drop count⟩

/-- Moves over a line break. A carriage return and a line feed count as one break. -/
def skipBreak (cursor : Cursor) : Cursor :=
  match cursor.rest with
  | '\r' :: '\n' :: rest => ⟨cursor.mark.down 2, rest⟩
  | _ :: rest => ⟨cursor.mark.down 1, rest⟩
  | [] => cursor

/-- The line break at a place, as it counts in a scalar: all breaks become line feeds, save the
two Unicode separators. There is none where no break stands. -/
def takeBreak (cursor : Cursor) : List Char × Cursor :=
  match cursor.rest with
  | [] => ([], cursor)
  | c :: _ =>
    if isBreak c then
      ([if c = '\u2028' ∨ c = '\u2029' then c else '\n'], cursor.skipBreak)
    else ([], cursor)

/-- The characters up to the first that fails a test, which has to fail for line breaks. -/
def takeWhile (cursor : Cursor) (test : Char → Bool) : List Char × Cursor :=
  let taken := cursor.rest.takeWhile test
  (taken, cursor.skip taken.length)

def skipWhile (cursor : Cursor) (test : Char → Bool) : Cursor :=
  (cursor.takeWhile test).2

/-- Moves to the end of the line if a comment starts here. -/
def skipComment (cursor : Cursor) : Cursor :=
  match cursor.rest with
  | '#' :: _ => cursor.skipWhile fun c => !isBreak c
  | _ => cursor

/-- Whether a line begins here with the three characters that separate documents. -/
def atDocumentIndicator (cursor : Cursor) : Bool :=
  cursor.column == 0 &&
    match cursor.rest with
    | '-' :: '-' :: '-' :: rest => atBlank rest
    | '.' :: '.' :: '.' :: rest => atBlank rest
    | _ => false

end Cursor

/-- The characters that a text may hold. -/
def isAdmissible (c : Char) : Bool :=
  let code := c.toNat
  code == 0x09 || code == 0x0a || code == 0x0d || (0x20 ≤ code && code ≤ 0x7e) ||
    code == 0x85 || (0xa0 ≤ code && code ≤ 0xd7ff) || (0xe000 ≤ code && code ≤ 0xfffd) ||
    0x10000 ≤ code

/-- The number of bytes before the first character that a text may not hold. -/
def firstInadmissible? (offset : Nat) : List Char → Option Nat
  | [] => none
  | c :: rest =>
    if isAdmissible c then firstInadmissible? (offset + c.utf8Size) rest else some offset

end SnapshotTypes.Yaml
