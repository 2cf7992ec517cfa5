import SnapshotTypes.Json.Fault
import SnapshotTypes.Text

/-!
Blanks, words and strings of JSON. A string is read from the character after its opening quote.
-/

set_option autoImplicit false

namespace SnapshotTypes.Json

open Text (hexValue?)

def isBlank (c : Char) : Bool :=
  c == ' ' || c == '\n' || c == '\t' || c == '\r'

def skipBlanks (text : List Char) : List Char :=
  text.dropWhile isBlank

/-- Reads the characters of a word, without regard to what follows it. -/
def readWord : List Char → List Char → Except Fault (List Char)
  | [], text => .ok text
  | _ :: _, [] => .error (.before .endInValue [])
  | c :: word, next :: text =>
    if next = c then readWord word text else .error (.next .expectedWord (next :: text))

def hexValue4? (first second third fourth : Char) : Option Nat := do
  let first ← hexValue? first
  let second ← hexValue? second
  let third ← hexValue? third
  let fourth ← hexValue? fourth
  return ((first * 16 + second) * 16 + third) * 16 + fourth

/-- A fault for text that should begin with four hexadecimal digits. It is the end of the text that
counts if there are not even four bytes. -/
def hexFault (text : List Char) : Fault :=
  if (text.take 4).foldl (fun size c => size + c.utf8Size) 0 < 4 then .before .endInString []
  else ⟨.malformed .invalidEscape, ⟨text, 4⟩, []⟩

/-- The characters that a backslash and one letter stand for. -/
def escaped? (c : Char) : Option Char :=
  if c = '"' then some '"'
  else if c = '\\' then some '\\'
  else if c = '/' then some '/'
  else if c = 'b' then some '\x08'
  else if c = 'f' then some '\x0c'
  else if c = 'n' then some '\n'
  else if c = 'r' then some '\r'
  else if c = 't' then some '\t'
  else none

def isLeadingSurrogate (code : Nat) : Bool :=
  0xd800 ≤ code && code ≤ 0xdbff

def isTrailingSurrogate (code : Nat) : Bool :=
  0xdc00 ≤ code && code ≤ 0xdfff

def joinSurrogates (leading trailing : Nat) : Char :=
  Char.ofNat ((leading - 0xd800) * 0x400 + (trailing - 0xdc00) + 0x10000)

def consChar (c : Char) :
    Except Fault (List Char × List Char) → Except Fault (List Char × List Char)
  | .error fault => .error fault
  | .ok (body, rest) => .ok (c :: body, rest)

/-- The characters of a string and the text after its closing quote. After an escape for a leading
surrogate, which is kept in `leading`, an escape for a trailing one has to follow. -/
def readBody (leading : Option Nat) : List Char → Except Fault (List Char × List Char)
  | [] => .error (.before .endInString [])
  | c :: text =>
    match leading with
    | none =>
      if c = '"' then .ok ([], text)
      else if c = '\\' then
        match text with
        | [] => .error (.before .endInString [])
        | 'u' :: first :: second :: third :: fourth :: rest =>
          match hexValue4? first second third fourth with
          | none => .error (hexFault (first :: second :: third :: fourth :: rest))
          | some code =>
            if isTrailingSurrogate code then .error (.before .loneSurrogate rest)
            else if isLeadingSurrogate code then readBody (some code) rest
            else consChar (Char.ofNat code) (readBody none rest)
        | letter :: rest =>
          if letter = 'u' then .error (hexFault rest)
          else match escaped? letter with
            | none => .error (.next .invalidEscape (letter :: rest))
            | some c => consChar c (readBody none rest)
      else if c.toNat < 0x20 then .error (.next .controlCharacter (c :: text))
      else consChar c (readBody none text)
    | some leading =>
      if c = '\\' then
        match text with
        | [] => .error (.before .endInString [])
        | 'u' :: first :: second :: third :: fourth :: rest =>
          match hexValue4? first second third fourth with
          | none => .error (hexFault (first :: second :: third :: fourth :: rest))
          | some code =>
            if isTrailingSurrogate code then
              consChar (joinSurrogates leading code) (readBody none rest)
            else .error (.before .loneSurrogate rest)
        | letter :: rest =>
          if letter = 'u' then .error (hexFault rest)
          else .error (.next .unfinishedSurrogatePair (letter :: rest))
      else .error (.next .unfinishedSurrogatePair (c :: text))

def readString (text : List Char) : Except Fault (String × List Char) :=
  match readBody none text with
  | .error fault => .error fault
  | .ok (body, rest) => .ok (String.ofList body, rest)

/-- Skips a string whose value does not matter. Escapes have to be well formed, but surrogates need
not pair up. -/
def skipBody : List Char → Except Fault (List Char)
  | [] => .error (.before .endInString [])
  | c :: text =>
    if c = '"' then .ok text
    else if c = '\\' then
      match text with
      | [] => .error (.before .endInString [])
      | 'u' :: first :: second :: third :: fourth :: rest =>
        match hexValue4? first second third fourth with
        | none => .error (hexFault (first :: second :: third :: fourth :: rest))
        | some _ => skipBody rest
      | letter :: rest =>
        if letter = 'u' then .error (hexFault rest)
        else match escaped? letter with
          | none => .error (.next .invalidEscape (letter :: rest))
          | some _ => skipBody rest
    else if c.toNat < 0x20 then .error (.before .controlCharacter (c :: text))
    else skipBody text

end SnapshotTypes.Json
