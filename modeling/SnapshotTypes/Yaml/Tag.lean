import SnapshotTypes.Yaml.Token
import SnapshotTypes.Text

/-!
Tags and directives. Tags are texts of ASCII characters; an octet that a tag spells by number is
kept as the character of that code, which no tag spells otherwise.
-/

set_option autoImplicit false

namespace SnapshotTypes.Yaml

open Text (hexValue?)

/-- The characters of a tag. Those of flow collections belong to tags in angle brackets and to
directives only. -/
def isTagChar (verbatim : Bool) (c : Char) : Bool :=
  isNameChar c || ";/?:@&=+$.%!~*'()".toList.contains c ||
    (verbatim && (c == ',' || c == '[' || c == ']'))

/-- The octet at the start of a text, spelled as a percent sign and two digits. -/
def octet? : List Char → Option Nat
  | '%' :: high :: low :: _ => do
    let high ← hexValue? high
    let low ← hexValue? low
    return high * 16 + low
  | _ => none

/-- The number of octets of a character whose first octet is given. -/
def octetCount? (octet : Nat) : Option Nat :=
  if octet < 0x80 then some 1
  else if 0xc0 ≤ octet ∧ octet < 0xe0 then some 2
  else if 0xe0 ≤ octet ∧ octet < 0xf0 then some 3
  else if 0xf0 ≤ octet ∧ octet < 0xf8 then some 4
  else none

/-- What is being read when a tag is at fault: a tag, or a directive. -/
def tagContext (inDirective : Bool) : Context :=
  if inDirective then .parsingTagDirective else .parsingTag

def readOctets (context : Context) (start : Mark) :
    Nat → Cursor → Except Malformed (List Char × Cursor)
  | 0, cursor => .ok ([], cursor)
  | count + 1, cursor =>
    match octet? cursor.rest with
    | none => .error (.within context start .noOctet cursor.mark)
    | some octet =>
      if octet < 0x80 ∨ 0xc0 ≤ octet then
        .error (.within context start .badTrailingOctet cursor.mark)
      else
        match readOctets context start count (cursor.skip 3) with
        | .error fault => .error fault
        | .ok (octets, next) => .ok (Char.ofNat octet :: octets, next)

/-- Reads a character that is spelled by its octets. -/
def readSpelled (context : Context) (start : Mark) (cursor : Cursor) :
    Except Malformed (List Char × Cursor) :=
  match octet? cursor.rest with
  | none => .error (.within context start .noOctet cursor.mark)
  | some octet =>
    match octetCount? octet with
    | none => .error (.within context start .badLeadingOctet cursor.mark)
    | some count =>
      match readOctets context start (count - 1) (cursor.skip 3) with
      | .error fault => .error fault
      | .ok (octets, next) => .ok (Char.ofNat octet :: octets, next)

def readTagChars (verbatim : Bool) (context : Context) (start : Mark) :
    List Char → Cursor → Except Malformed (List Char × Cursor)
  | [], cursor => .ok ([], cursor)
  | _ :: budget, cursor =>
    match cursor.rest with
    | [] => .ok ([], cursor)
    | c :: _ =>
      if !isTagChar verbatim c then .ok ([], cursor)
      else
        let first : Except Malformed (List Char × Cursor) :=
          if c = '%' then readSpelled context start cursor else .ok ([c], cursor.skip 1)
        match first with
        | .error fault => .error fault
        | .ok (piece, next) =>
          match readTagChars verbatim context start budget next with
          | .error fault => .error fault
          | .ok (text, after) => .ok (piece ++ text, after)

/-- Reads a tag after its beginning `head`, which has been read already and whose exclamation mark
does not count. The whole may not be empty. -/
def readTagUri (verbatim inDirective : Bool) (head : List Char) (start : Mark) (cursor : Cursor) :
    Except Malformed (List Char × Cursor) :=
  let context := tagContext inDirective
  match readTagChars verbatim context start cursor.rest cursor with
  | .error fault => .error fault
  | .ok (text, next) =>
    if head = [] ∧ next.mark.index = cursor.mark.index then
      .error (.within context start .noTagUri next.mark)
    else .ok (head.drop 1 ++ text, next)

/-- Reads an exclamation mark, the name after it, and a second exclamation mark if there is one. -/
def readTagHandle (inDirective : Bool) (start : Mark) (cursor : Cursor) :
    Except Malformed (List Char × Cursor) :=
  if cursor.rest.head? ≠ some '!' then
    .error (.within (if inDirective then .scanningTagHandle else .scanningTag) start .noTagMark
      cursor.mark)
  else
    let (name, next) := (cursor.skip 1).takeWhile isNameChar
    if next.rest.head? = some '!' then .ok ('!' :: name ++ ['!'], next.skip 1)
    else if inDirective ∧ name ≠ [] then
      .error (.within .parsingTagHandle start .noTagMark next.mark)
    else .ok ('!' :: name, next)

/-- Reads a tag in angle brackets: it stands for itself, without a handle. -/
def readVerbatimTag (start : Mark) (cursor : Cursor) :
    Except Malformed (TokenKind × Cursor) :=
  match readTagUri true false [] start (cursor.skip 2) with
  | .error fault => .error fault
  | .ok (suffix, next) =>
    if next.rest.head? = some '>' then .ok (.tag [] suffix, next.skip 1)
    else .error (.within .scanningTag start .noTagClose next.mark)

/-- Reads a tag of a handle and a suffix. What begins like a handle but does not end like one is
part of the suffix, and a lone exclamation mark stands for itself. -/
def readHandledTag (start : Mark) (cursor : Cursor) : Except Malformed (TokenKind × Cursor) :=
  match readTagHandle false start cursor with
  | .error fault => .error fault
  | .ok (handle, next) =>
    if 1 < handle.length ∧ handle.getLast? = some '!' then
      match readTagUri false false [] start next with
      | .error fault => .error fault
      | .ok (suffix, next) => .ok (.tag handle suffix, next)
    else
      match readTagUri false false handle start next with
      | .error fault => .error fault
      | .ok (suffix, next) =>
        .ok (if suffix.head?.all (· = '\x00') then .tag [] ['!'] else .tag ['!'] suffix, next)

def readTag (inFlow : Bool) (cursor : Cursor) : Except Malformed (TokenKind × Cursor) :=
  let start := cursor.mark
  let tag := if (cursor.rest.drop 1).head? = some '<' then readVerbatimTag start cursor
    else readHandledTag start cursor
  match tag with
  | .error fault => .error fault
  | .ok (kind, next) =>
    if (inFlow ∧ next.rest.head? = some ',') ∨ atBlank next.rest then .ok (kind, next)
    else .error (.within .scanningTag start .noWhitespaceOrBreak next.mark)

/-- Reads a number of a version, of nine digits at most. -/
def readVersionNumber (start : Mark) (cursor : Cursor) : Except Malformed (Nat × Cursor) :=
  let (digits, next) := cursor.takeWhile Char.isDigit
  if digits = [] then .error (.within .scanningVersion start .noVersion cursor.mark)
  else if 9 < digits.length then
    .error (.within .scanningVersion start .longVersion (cursor.skip 9).mark)
  else .ok (digits.foldl (fun value c => value * 10 + (c.toNat - 0x30)) 0, next)

def readVersion (start : Mark) (cursor : Cursor) : Except Malformed (TokenKind × Cursor) := do
  let (major, next) ← readVersionNumber start (cursor.skipWhile isBlank)
  if next.rest.head? ≠ some '.' then
    .error (.within .scanningVersion start .noVersionPoint next.mark)
  else
    let (minor, next) ← readVersionNumber start (next.skip 1)
    .ok (.versionDirective major minor, next)

def readTagDirective (start : Mark) (cursor : Cursor) :
    Except Malformed (TokenKind × Cursor) := do
  let (handle, next) ← readTagHandle true start (cursor.skipWhile isBlank)
  if !next.rest.head?.any isBlank then
    .error (.within .scanningTagDirective start .noWhitespace next.mark)
  else
    let (expansion, next) ← readTagUri true true [] start (next.skipWhile isBlank)
    if atBlank next.rest then .ok (.tagDirective handle expansion, next)
    else .error (.within .scanningTagDirective start .noWhitespaceOrBreak next.mark)

def readDirectiveBody (start : Mark) (cursor : Cursor) :
    Except Malformed (TokenKind × Cursor) :=
  let (name, next) := (cursor.skip 1).takeWhile isNameChar
  if name = [] then .error (.within .scanningDirective start .noDirectiveName next.mark)
  else if !atBlank next.rest then
    .error (.within .scanningDirective start .nonAlphabetical next.mark)
  else if name = "YAML".toList then readVersion start next
  else if name = "TAG".toList then readTagDirective start next
  else .error (.within .scanningDirective start .unknownDirective next.mark)

/-- Reads a directive and the rest of its line, with the place where its value ended. -/
def readDirective (cursor : Cursor) : Except Malformed (TokenKind × Mark × Cursor) :=
  match readDirectiveBody cursor.mark cursor with
  | .error fault => .error fault
  | .ok (kind, value) =>
    let next := (value.skipWhile isBlank).skipComment
    if atBreak next.rest then .ok (kind, value.mark, next.takeBreak.2)
    else .error (.within .scanningDirective cursor.mark .noCommentOrBreak next.mark)

end SnapshotTypes.Yaml
