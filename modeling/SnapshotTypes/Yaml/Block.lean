import SnapshotTypes.Yaml.Token

/-!
Block scalars: indented lines, kept as they are or folded.
-/

set_option autoImplicit false

namespace SnapshotTypes.Yaml

/-- What happens to the line breaks at the end: the first is kept by `clip`, all by `keep`. -/
inductive Chomping where
  | strip
  | clip
  | keep
deriving DecidableEq, Repr

def chomping? : Option Char → Option Chomping
  | some '+' => some .keep
  | some '-' => some .strip
  | _ => none

/-- The first line of a block scalar: its chomping, how much deeper it is indented if it tells,
and the place after the line. -/
structure BlockHeader where
  chomping : Chomping
  increment : Option Nat
  cursor : Cursor

/-- Reads the digit of an indentation, if there is one. -/
def readIncrement (start : Mark) (cursor : Cursor) : Except Malformed (Option Nat × Cursor) :=
  match cursor.rest.head? with
  | none => .ok (none, cursor)
  | some c =>
    if !c.isDigit then .ok (none, cursor)
    else if c = '0' then
      .error (.within .scanningBlockScalar start .zeroIndentation cursor.mark)
    else .ok (some (c.toNat - 0x30), cursor.skip 1)

/-- Reads the indicators after the first character, in either order. -/
def readIndicators (start : Mark) (cursor : Cursor) :
    Except Malformed (Chomping × Option Nat × Cursor) :=
  match chomping? cursor.rest.head? with
  | some chomping =>
    match readIncrement start (cursor.skip 1) with
    | .error fault => .error fault
    | .ok (increment, next) => .ok (chomping, increment, next)
  | none =>
    match readIncrement start cursor with
    | .error fault => .error fault
    | .ok (none, next) => .ok (.clip, none, next)
    | .ok (some increment, next) =>
      match chomping? next.rest.head? with
      | some chomping => .ok (chomping, some increment, next.skip 1)
      | none => .ok (.clip, some increment, next)

def readBlockHeader (start : Mark) (cursor : Cursor) : Except Malformed BlockHeader :=
  match readIndicators start (cursor.skip 1) with
  | .error fault => .error fault
  | .ok (chomping, increment, next) =>
    let next := (next.skipWhile isBlank).skipComment
    if atBreak next.rest then .ok ⟨chomping, increment, next.takeBreak.2⟩
    else .error (.within .scanningBlockScalar start .noCommentOrBreak next.mark)

/-- Moves over the spaces of an indentation, up to its column if that is known. -/
def skipIndentation (indent : Option Nat) : List Char → Cursor → Cursor
  | [], cursor => cursor
  | _ :: budget, cursor =>
    if indent.all (cursor.column < ·) ∧ cursor.rest.head? = some ' ' then
      skipIndentation indent budget (cursor.skip 1)
    else cursor

/-- Reads empty lines: the line breaks, the deepest column that was reached, and the place of the
first character that is not part of them. -/
def readBlockBreaks (start : Mark) (indent : Option Nat) :
    List Char → Nat → Cursor → Except Malformed (List Char × Nat × Cursor)
  | [], deepest, cursor => .ok ([], deepest, cursor)
  | _ :: budget, deepest, cursor =>
    let next := skipIndentation indent cursor.rest cursor
    let deepest := max deepest next.column
    if indent.all (next.column < ·) ∧ next.rest.head? = some '\t' then
      .error (.within .scanningBlockScalar start .tabInIndentation next.mark)
    else if next.rest.head?.any isBreak then
      let (text, after) := next.takeBreak
      match readBlockBreaks start indent budget deepest after with
      | .error fault => .error fault
      | .ok (breaks, deepest, last) => .ok (text ++ breaks, deepest, last)
    else .ok ([], deepest, next)

/-- Whether a line begins with a blank, which keeps the breaks around it from folding. -/
def beginsBlank (text : List Char) : Bool :=
  text.head?.any isBlank

/-- What the breaks before a line stand for: those of the line before, then the empty lines. -/
def joinLines (folds : Bool) (first more : List Char) : List Char :=
  if folds ∧ first = ['\n'] then (if more = [] then [' '] else more) else first ++ more

/-- Reads the lines that stand at the column of the scalar. `first` and `more` are the breaks
before the line, and `afterBlank` tells that the line before began with a blank. Each turn takes a
character at least, so that the text at the start bounds their number. -/
def readBlockLines (folded : Bool) (chomping : Chomping) (start : Mark) (indent : Nat) :
    List Char → (first more : List Char) → (afterBlank : Bool) → Cursor →
      Except Malformed (List Char × Cursor)
  | budget, first, more, afterBlank, cursor =>
    let tail := match chomping with
      | .strip => []
      | .clip => first
      | .keep => first ++ more
    match budget, cursor.rest with
    | _ :: budget, _ :: _ =>
      if cursor.column = indent then
        let blank := beginsBlank cursor.rest
        let joined := joinLines (folded && !afterBlank && !blank) first more
        let (line, next) := cursor.takeWhile fun c => !isBreak c
        let (first, next) := next.takeBreak
        match readBlockBreaks start (some indent) next.rest 0 next with
        | .error fault => .error fault
        | .ok (more, _, next) =>
          match readBlockLines folded chomping start indent budget first more blank next with
          | .error fault => .error fault
          | .ok (text, after) => .ok (joined ++ line ++ text, after)
      else .ok (tail, cursor)
    | _, _ => .ok (tail, cursor)

/-- Reads a block scalar from its indicator on, inside a collection that stands at column `outer`.
Without an indentation of its own it takes that of its deepest leading line. -/
def readBlock (folded : Bool) (outer : Int) (cursor : Cursor) :
    Except Malformed (List Char × Cursor) :=
  let start := cursor.mark
  match readBlockHeader start cursor with
  | .error fault => .error fault
  | .ok header =>
    let indent := header.increment.map fun increment => (max outer 0).toNat + increment
    match readBlockBreaks start indent header.cursor.rest 0 header.cursor with
    | .error fault => .error fault
    | .ok (more, deepest, next) =>
      let indent := indent.getD (max deepest (max (outer + 1) 1).toNat)
      readBlockLines folded header.chomping start indent next.rest [] more false next

end SnapshotTypes.Yaml
