import SnapshotTypes.Yaml.Token
import SnapshotTypes.Text

/-!
Scalars of YAML that stand among other tokens: plain ones and those in quotes.
-/

set_option autoImplicit false

namespace SnapshotTypes.Yaml

/-!
## White space

Blanks within a line stay; a single line break becomes a space, and of several breaks the first is
dropped.
-/

/-- White space between two runs of other characters. Blanks around a line break do not count. -/
inductive Gap where
  | blanks (text : List Char)
  | breaks (first more : List Char)
deriving DecidableEq, Repr

namespace Gap

def empty : Gap := .blanks []

def isBroken : Gap → Bool
  | .blanks _ => false
  | .breaks _ _ => true

/-- What the white space stands for. Only a line feed folds. -/
def text : Gap → List Char
  | .blanks text => text
  | .breaks first more =>
    if first = ['\n'] then (if more = [] then [' '] else more) else first ++ more

def addBlank : Gap → Char → Gap
  | .blanks text, c => .blanks (text ++ [c])
  | .breaks first more, _ => .breaks first more

def addBreak : Gap → List Char → Gap
  | .blanks _, text => .breaks text []
  | .breaks first more, text => .breaks first (more ++ text)

end Gap

/-- Reads white space. After a line break no tab may stand before the column `limit`; the cursor of
a fault is at such a tab. -/
def readGap (limit : Int) : List Char → Gap → Cursor → Except Cursor (Gap × Cursor)
  | [], gap, cursor => .ok (gap, cursor)
  | _ :: budget, gap, cursor =>
    match cursor.rest with
    | [] => .ok (gap, cursor)
    | c :: _ =>
      if isBlank c then
        if gap.isBroken ∧ (cursor.column : Int) < limit ∧ c = '\t' then .error cursor
        else readGap limit budget (gap.addBlank c) (cursor.skip 1)
      else if isBreak c then
        let (text, next) := cursor.takeBreak
        readGap limit budget (gap.addBreak text) next
      else .ok (gap, cursor)

/-!
## Plain scalars

Text without quotes, which ends where YAML would read something else.
-/

/-- Brackets and commas, which structure flow collections. -/
def isFlowIndicator (c : Char) : Bool :=
  c == ',' || c == '[' || c == ']' || c == '{' || c == '}'

/-- Whether a colon stands directly before an indicator of a flow collection. -/
def atTightColon : List Char → Bool
  | ':' :: c :: _ => isFlowIndicator c || c == '?'
  | _ => false

/-- Whether a run of plain characters ends here. -/
def endsPlain (inFlow : Bool) : List Char → Bool
  | [] => true
  | c :: rest =>
    isBlank c || isBreak c || (c == ':' && atBlank rest) ||
      (inFlow && (isFlowIndicator c || atTightColon (c :: rest)))

/-- The characters up to the end of a run. -/
def takePlain (inFlow : Bool) : List Char → List Char
  | [] => []
  | c :: rest => if endsPlain inFlow (c :: rest) then [] else c :: takePlain inFlow rest

/-- The text of a plain scalar and its end, whether it ended after a line break, and the text from
the next token on. -/
structure PlainScalar where
  text : List Char
  stop : Mark
  broken : Bool
  cursor : Cursor

/-- Reads the rest of a plain scalar after white space. Each turn takes a character at least, so
that the text at the start bounds their number. -/
def readPlainFrom (inFlow : Bool) (limit : Int) (start : Mark) :
    List Char → Gap → Mark → Cursor → Except Malformed PlainScalar
  | [], gap, stop, cursor => .ok ⟨[], stop, gap.isBroken, cursor⟩
  | _ :: budget, gap, stop, cursor =>
    if cursor.atDocumentIndicator ∨ cursor.rest.head? = some '#' then
      .ok ⟨[], stop, gap.isBroken, cursor⟩
    else
      let run := takePlain inFlow cursor.rest
      let next := cursor.skip run.length
      let (piece, gap, stop) :=
        if run = [] then ([], gap, stop) else (gap.text ++ run, Gap.empty, next.mark)
      if inFlow ∧ atTightColon next.rest then
        .error (.within .scanningPlainScalar start .unexpectedColon next.mark)
      else
        match next.rest with
        | [] => .ok ⟨piece, stop, gap.isBroken, next⟩
        | c :: _ =>
          if isBlank c || isBreak c then
            match readGap limit next.rest gap next with
            | .error tab =>
              .error (.within .scanningPlainScalar start .tabViolatesIndentation tab.mark)
            | .ok (gap, next) =>
              if !inFlow ∧ (next.column : Int) < limit then
                .ok ⟨piece, stop, gap.isBroken, next⟩
              else
                match readPlainFrom inFlow limit start budget gap stop next with
                | .error fault => .error fault
                | .ok scalar => .ok { scalar with text := piece ++ scalar.text }
          else .ok ⟨piece, stop, gap.isBroken, next⟩

/-- Reads a plain scalar. In the block context its later lines have to be indented deeper than
the collection around it, which stands at column `indent`. -/
def readPlain (inFlow : Bool) (indent : Int) (cursor : Cursor) : Except Malformed PlainScalar :=
  readPlainFrom inFlow (indent + 1) cursor.mark cursor.rest .empty cursor.mark cursor

/-!
## Quoted scalars

Within double quotes a backslash escapes.
-/

open Text (hexValue?)

/-- The characters that a backslash and one letter stand for. -/
def escaped? (c : Char) : Option Char :=
  match c with
  | '0' => some '\x00'
  | 'a' => some '\x07'
  | 'b' => some '\x08'
  | 't' => some '\t'
  | '\t' => some '\t'
  | 'n' => some '\n'
  | 'v' => some '\x0b'
  | 'f' => some '\x0c'
  | 'r' => some '\r'
  | 'e' => some '\x1b'
  | ' ' => some ' '
  | '"' => some '"'
  | '/' => some '/'
  | '\\' => some '\\'
  | 'N' => some '\x85'
  | '_' => some '\u00a0'
  | 'L' => some '\u2028'
  | 'P' => some '\u2029'
  | _ => none

/-- The number of hexadecimal digits after the letters that announce a code point. -/
def codeLength? (c : Char) : Option Nat :=
  match c with
  | 'x' => some 2
  | 'u' => some 4
  | 'U' => some 8
  | _ => none

/-- The value of the first `count` characters of a text, if all are hexadecimal digits. -/
def hexNumber? : Nat → Nat → List Char → Option Nat
  | 0, value, _ => some value
  | _ + 1, _, [] => none
  | count + 1, value, c :: rest =>
    match hexValue? c with
    | none => none
    | some digit => hexNumber? count (value * 16 + digit) rest

/-- A run of characters of a quoted scalar up to white space, a quote or the end. -/
structure QuotedRun where
  text : List Char
  /-- Whether the run ended in an escaped line break. -/
  escapedBreak : Bool
  cursor : Cursor

def QuotedRun.prepend (c : Char) :
    Except Malformed QuotedRun → Except Malformed QuotedRun
  | .error fault => .error fault
  | .ok run => .ok { run with text := c :: run.text }

/-- Reads a run in single quotes, where two quotes stand for one. -/
def readSingleRun : List Char → Cursor → QuotedRun
  | [], cursor => ⟨[], false, cursor⟩
  | _ :: budget, cursor =>
    match cursor.rest with
    | [] => ⟨[], false, cursor⟩
    | c :: rest =>
      if isBlank c || isBreak c then ⟨[], false, cursor⟩
      else if c = '\'' then
        if rest.head? = some '\'' then
          let run := readSingleRun budget (cursor.skip 2)
          { run with text := '\'' :: run.text }
        else ⟨[], false, cursor⟩
      else
        let run := readSingleRun budget (cursor.skip 1)
        { run with text := c :: run.text }

/-- The code point that an escape spells, with the place after it. -/
def readCode (start : Mark) (length : Nat) (cursor : Cursor) : Except Malformed (Char × Cursor) :=
  match hexNumber? length 0 cursor.rest with
  | none => .error (.within .parsingQuotedScalar start .noHexNumber cursor.mark)
  | some code =>
    if (0xd800 ≤ code ∧ code ≤ 0xdfff) ∨ 0x10ffff < code then
      .error (.within .parsingQuotedScalar start .badEscapeCode cursor.mark)
    else .ok (Char.ofNat code, cursor.skip length)

/-- The character that an escape stands for, with the place after it. The cursor is at the
backslash, and `letter` follows it. -/
def readEscape (start : Mark) (letter : Option Char) (cursor : Cursor) :
    Except Malformed (Char × Cursor) :=
  let unknown : Except Malformed (Char × Cursor) :=
    .error (.within .parsingQuotedScalar start .unknownEscape cursor.mark)
  match letter with
  | none => unknown
  | some letter =>
    match escaped? letter, codeLength? letter with
    | some c, _ => .ok (c, cursor.skip 2)
    | none, some length => readCode start length (cursor.skip 2)
    | none, none => unknown

def readDoubleRun (start : Mark) : List Char → Cursor → Except Malformed QuotedRun
  | [], cursor => .ok ⟨[], false, cursor⟩
  | _ :: budget, cursor =>
    match cursor.rest with
    | [] => .ok ⟨[], false, cursor⟩
    | c :: rest =>
      if isBlank c || isBreak c || c = '"' then .ok ⟨[], false, cursor⟩
      else if c = '\\' then
        if rest.head?.any isBreak then .ok ⟨[], true, (cursor.skip 1).skipBreak⟩
        else
          match readEscape start rest.head? cursor with
          | .error fault => .error fault
          | .ok (escaped, next) => QuotedRun.prepend escaped (readDoubleRun start budget next)
      else QuotedRun.prepend c (readDoubleRun start budget (cursor.skip 1))

def readQuotedRun (quote : Char) (start : Mark) (cursor : Cursor) : Except Malformed QuotedRun :=
  if quote = '\'' then .ok (readSingleRun cursor.rest cursor)
  else readDoubleRun start cursor.rest cursor

/-- Reads the text up to the closing quote, and the place after it. Each turn takes a character
at least, so that the text at the start bounds their number. -/
def readQuotedFrom (quote : Char) (start : Mark) :
    List Char → Cursor → Except Malformed (List Char × Cursor)
  | budget, cursor =>
    if cursor.atDocumentIndicator then
      .error (.within .scanningQuotedScalar start .documentIndicator cursor.mark)
    else
      match budget, cursor.rest with
      | _ :: budget, _ :: _ =>
        match readQuotedRun quote start cursor with
        | .error fault => .error fault
        | .ok run =>
          if run.cursor.rest.head? = some quote then .ok (run.text, run.cursor.skip 1)
          else
            let gap := if run.escapedBreak then Gap.breaks [] [] else .empty
            match readGap 0 run.cursor.rest gap run.cursor with
            | .error tab =>
              .error (.within .scanningQuotedScalar start .tabViolatesIndentation tab.mark)
            | .ok (gap, next) =>
              match readQuotedFrom quote start budget next with
              | .error fault => .error fault
              | .ok (text, after) => .ok (run.text ++ gap.text ++ text, after)
      | _, _ => .error (.within .scanningQuotedScalar start .endOfStream cursor.mark)

def readQuoted (quote : Char) (cursor : Cursor) : Except Malformed (List Char × Cursor) :=
  readQuotedFrom quote cursor.mark cursor.rest (cursor.skip 1)

end SnapshotTypes.Yaml
