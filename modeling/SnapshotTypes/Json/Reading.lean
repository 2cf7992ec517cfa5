import SnapshotTypes.Json.Skipping
import SnapshotTypes.Document

/-!
Snapshots in JSON. A record is an object, or a list of its values in the order of declaration. Keys
that a record does not have are skipped with their values, and the text after the root value is not
looked at.
-/

set_option autoImplicit false

namespace SnapshotTypes.Json

open Document

abbrev JsonReader (α : Type) := Reader (List Char) Fault α

/-- The complaint about a value of another kind than expected. Scalars are read first, so that a
malformed one is reported as such. -/
def mismatchAt (expected : String) (text : List Char) : Fault :=
  let wrongKind (found : Found) (rest : List Char) : Fault :=
    .mismatched (.wrongKind found expected) rest
  let word (found : Found) (result : Except Fault (List Char)) : Fault :=
    match result with
    | .error fault => fault
    | .ok rest => wrongKind found rest
  let number (result : Except Fault (Found × List Char)) : Fault :=
    match result with
    | .error fault => fault
    | .ok (found, rest) => wrongKind found rest
  match text with
  | [] => .before .expectedValue []
  | c :: rest =>
    if c = 'n' then word .null (readWord ['u', 'l', 'l'] rest)
    else if c = 't' then word (.boolean true) (readWord ['r', 'u', 'e'] rest)
    else if c = 'f' then word (.boolean false) (readWord ['a', 'l', 's', 'e'] rest)
    else if c = '-' then number (readNumber true rest)
    else if c.isDigit then number (readNumber false text)
    else if c = '"' then
      match readString rest with
      | .error fault => fault
      | .ok (value, rest) => wrongKind (.text value) rest
    else if c = '[' then wrongKind .sequence text
    else if c = '{' then wrongKind .mapping text
    else .next .expectedValue text

def readText : JsonReader String := fun text =>
  match skipBlanks text with
  | [] => .error (.before .endInValue [])
  | c :: rest => if c = '"' then readString rest else .error (mismatchAt expectedText (c :: rest))

def readFlag : JsonReader Bool := fun text =>
  let word (value : Bool) (result : Except Fault (List Char)) : Except Fault (Bool × List Char) :=
    match result with
    | .error fault => .error fault
    | .ok rest => .ok (value, rest)
  match skipBlanks text with
  | [] => .error (.before .endInValue [])
  | c :: rest =>
    if c = 't' then word true (readWord ['r', 'u', 'e'] rest)
    else if c = 'f' then word false (readWord ['a', 'l', 's', 'e'] rest)
    else .error (mismatchAt expectedFlag (c :: rest))

def readOptional {α : Type} (reader : JsonReader α) : JsonReader (Option α) := fun text =>
  let present (text : List Char) : Except Fault (Option α × List Char) :=
    match reader text with
    | .error fault => .error fault
    | .ok (value, rest) => .ok (some value, rest)
  match skipBlanks text with
  | [] => present []
  | c :: rest =>
    if c = 'n' then
      match readWord ['u', 'l', 'l'] rest with
      | .error fault => .error fault
      | .ok rest => .ok (none, rest)
    else present (c :: rest)

/-- Whether a list goes on: the text where its next element starts, or `none` at the closing
bracket, which is left in the text. `first` tells that no element has been read. -/
def nextElement (first : Bool) (text : List Char) : Except Fault (Option (List Char)) :=
  match skipBlanks text with
  | [] => .error (.before .endInList [])
  | c :: rest =>
    if c = ']' then .ok none
    else if first then .ok (some (c :: rest))
    else if c = ',' then
      match skipBlanks rest with
      | [] => .error (.before .endInValue [])
      | c :: rest =>
        if c = ']' then .error (.next .trailingComma (c :: rest)) else .ok (some (c :: rest))
    else .error (.next .expectedListCommaOrEnd (c :: rest))

/-- Where a list that ended in a complaint is taken to end: after its bracket, or after a comma. -/
def afterList (text : List Char) : List Char :=
  match skipBlanks text with
  | [] => []
  | c :: rest => if c = ']' then rest else if c = ',' then skipBlanks rest else c :: rest

def closeList (text : List Char) : Except Fault (List Char) :=
  match skipBlanks text with
  | [] => .error (.before .endInList [])
  | c :: rest =>
    if c = ']' then .ok rest
    else if c = ',' then
      match skipBlanks rest with
      | [] => .error (.before .trailingCharacters [])
      | c :: rest =>
        .error (.next (if c = ']' then .trailingComma else .trailingCharacters) (c :: rest))
    else .error (.next .trailingCharacters (c :: rest))

/-- The elements from `position` on, and the text from the closing bracket. Each takes a character
at least, so that the text at the start of the list bounds their number. -/
def readElements {α : Type} (reader : JsonReader α) :
    List Char → Nat → List Char → Except Fault (List α × List Char)
  | [], _, _ => .error (.before .endInList [])
  | _ :: budget, position, text =>
    match nextElement (position = 0) text with
    | .error fault => .error fault
    | .ok none => .ok ([], text)
    | .ok (some text) =>
      match within (.index position) (reader text) with
      | .error fault => .error fault
      | .ok (value, rest) =>
        match readElements reader budget (position + 1) rest with
        | .error fault => .error fault
        | .ok (values, rest) => .ok (value :: values, rest)

def readList {α : Type} (reader : JsonReader α) : JsonReader (List α) := fun text =>
  match skipBlanks text with
  | [] => .error (.before .endInValue [])
  | c :: rest =>
    if c = '[' then
      match readElements reader (c :: rest) 0 rest with
      | .error fault => .error fault
      | .ok (values, rest) =>
        match closeList rest with
        | .error fault => .error fault
        | .ok rest => .ok (values, rest)
    else .error (mismatchAt expectedList (c :: rest))

section Records

variable {δ α : Type}

/-- Where an object that ended in a complaint is taken to end. -/
def afterObject (text : List Char) : List Char :=
  match skipBlanks text with
  | [] => []
  | c :: rest => if c = '}' then rest else c :: rest

/-- The record that a complete draft gives, with the text that its closing leaves. -/
def finishRecord (shape : RecordShape (List Char) Fault δ α) (draft : δ) (rest : List Char) :
    Except Fault (α × List Char) :=
  match shape.finish draft with
  | .error key => .error (.mismatched (.missing key) rest)
  | .ok value => .ok (value, rest)

/-- The draft with the values of a list, which have to be there for every slot. -/
def readPositions (shape : RecordShape (List Char) Fault δ α) :
    List (Slot (List Char) Fault δ) → Nat → δ → List Char → Except Fault (δ × List Char)
  | [], _, draft, text => .ok (draft, text)
  | slot :: slots, position, draft, text =>
    match nextElement (position = 0) text with
    | .error fault => .error fault
    | .ok none =>
      .error (.mismatched (.wrongLength position shape.expectedElements) (afterList text))
    | .ok (some text) =>
      match within (.index position) (slot.read text) with
      | .error fault => .error fault
      | .ok (complete, rest) =>
        readPositions shape slots (position + 1) (complete draft) rest

/-- Whether an object goes on: the text after the opening quote of its next key, or `none` at the
closing bracket, which is left in the text. -/
def nextKey (first : Bool) (text : List Char) : Except Fault (Option (List Char)) :=
  match skipBlanks text with
  | [] => .error (.before .endInObject [])
  | c :: rest =>
    if c = '}' then .ok none
    else if first then
      if c = '"' then .ok (some rest) else .error (.next .keyNotText (c :: rest))
    else if c = ',' then
      match skipBlanks rest with
      | [] => .error (.before .endInValue [])
      | c :: rest =>
        if c = '"' then .ok (some rest)
        else if c = '}' then .error (.next .trailingComma (c :: rest))
        else .error (.next .keyNotText (c :: rest))
    else .error (.next .expectedObjectCommaOrEnd (c :: rest))

/-- The next key of an object, with the text after it. -/
def readKey (first : Bool) (text : List Char) : Except Fault (Option (String × List Char)) :=
  within .unreadable <|
    match nextKey first text with
    | .error fault => .error fault
    | .ok none => .ok none
    | .ok (some body) =>
      match readString body with
      | .error fault => .error fault
      | .ok (key, rest) => .ok (some (key, rest))

/-- The value of a key, from the colon on: it completes the draft if the record has the key. -/
def readEntry (shape : RecordShape (List Char) Fault δ α) (key : String) (draft : δ)
    (text : List Char) : Except Fault (δ × List Char) :=
  match shape.slot? key with
  | none =>
    match readColon text with
    | .error fault => .error fault
    | .ok rest =>
      match within (.key key) (skipValue rest) with
      | .error fault => .error fault
      | .ok rest => .ok (draft, rest)
  | some slot =>
    if slot.isFilled draft then .error (.mismatched (.duplicate key) (afterObject text))
    else
      match readColon text with
      | .error fault => .error fault
      | .ok rest =>
        match within (.key key) (slot.read rest) with
        | .error fault => .error fault
        | .ok (complete, rest) => .ok (complete draft, rest)

/-- The draft with the entries of an object, and the text from the closing bracket. Each entry
takes a character at least, so that the text at the start of the object bounds their number. -/
def readEntries (shape : RecordShape (List Char) Fault δ α) :
    List Char → Bool → δ → List Char → Except Fault (δ × List Char)
  | [], _, _, _ => .error (.before .endInObject [])
  | _ :: budget, first, draft, text =>
    match readKey first text with
    | .error fault => .error fault
    | .ok none => .ok (draft, text)
    | .ok (some (key, rest)) =>
      match readEntry shape key draft rest with
      | .error fault => .error fault
      | .ok (draft, rest) => readEntries shape budget false draft rest

def readRecord (shape : RecordShape (List Char) Fault δ α) : JsonReader α := fun text =>
  match skipBlanks text with
  | [] => .error (.before .endInValue [])
  | c :: rest =>
    if c = '{' then
      match readEntries shape (c :: rest) true shape.blank rest with
      | .error fault => .error fault
      | .ok (draft, rest) => finishRecord shape draft (afterObject rest)
    else if c = '[' then
      match readPositions shape shape.slots 0 shape.blank rest with
      | .error fault => .error fault
      | .ok (draft, rest) =>
        match closeList rest with
        | .error fault => .error fault
        | .ok rest => finishRecord shape draft rest
    else .error (mismatchAt shape.expected (c :: rest))

end Records

def notations : Notations (List Char) Fault where
  text := readText
  flag := readFlag
  optional := readOptional
  list := readList
  record := readRecord

def parseSnapshot (source : String) : Except Failure Snapshot :=
  match snapshotReader notations source.toList with
  | .error fault => .error (fault.failure source.toList)
  | .ok (snapshot, _) => .ok snapshot

end SnapshotTypes.Json
