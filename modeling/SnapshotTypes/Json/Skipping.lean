import SnapshotTypes.Json.Number

/-!
Values that do not matter. They have to be well formed, and may be nested to any depth.
-/

set_option autoImplicit false

namespace SnapshotTypes.Json

inductive Frame where
  | list
  | object
deriving DecidableEq, Repr

namespace Frame

def closer : Frame → Char
  | list => ']'
  | object => '}'

def atEnd : Frame → Malformation
  | list => .endInList
  | object => .endInObject

def expectedCommaOrEnd : Frame → Malformation
  | list => .expectedListCommaOrEnd
  | object => .expectedObjectCommaOrEnd

end Frame

/-- What skipping left: the frames that are open, the innermost first, whether the innermost one was
opened last, and the text. -/
structure Skipping where
  frames : List Frame
  opened : Bool
  rest : List Char

/-- Skips a scalar, or the bracket that opens a list or an object. -/
def skipStart (frames : List Frame) (text : List Char) : Except Fault Skipping :=
  let closed (result : Except Fault (List Char)) : Except Fault Skipping :=
    match result with
    | .error fault => .error fault
    | .ok rest => .ok ⟨frames, false, rest⟩
  match skipBlanks text with
  | [] => .error (.before .endInValue [])
  | c :: rest =>
    if c = 'n' then closed (readWord ['u', 'l', 'l'] rest)
    else if c = 't' then closed (readWord ['r', 'u', 'e'] rest)
    else if c = 'f' then closed (readWord ['a', 'l', 's', 'e'] rest)
    else if c = '-' then closed (skipNumber rest)
    else if c.isDigit then closed (skipNumber (c :: rest))
    else if c = '"' then closed (skipBody rest)
    else if c = '[' then .ok ⟨.list :: frames, true, rest⟩
    else if c = '{' then .ok ⟨.object :: frames, true, rest⟩
    else .error (.next .expectedValue (c :: rest))

def readColon (text : List Char) : Except Fault (List Char) :=
  match skipBlanks text with
  | [] => .error (.before .endInObject [])
  | c :: rest => if c = ':' then .ok rest else .error (.next .expectedColon (c :: rest))

def skipKey (text : List Char) : Except Fault (List Char) :=
  match skipBlanks text with
  | [] => .error (.before .endInObject [])
  | c :: rest =>
    if c = '"' then
      match skipBody rest with
      | .error fault => .error fault
      | .ok rest => readColon rest
    else .error (.next .keyNotText (c :: rest))

/-- Skips the start of an entry of the innermost frame. -/
def skipEntry (frame : Frame) (frames : List Frame) (text : List Char) : Except Fault Skipping :=
  match frame with
  | .list => skipStart (frame :: frames) text
  | .object =>
    match skipKey text with
    | .error fault => .error fault
    | .ok rest => skipStart (frame :: frames) rest

/-- Takes the next step within the innermost frame: its end, or the start of an entry. -/
def skipWithin (frame : Frame) (frames : List Frame) (opened : Bool) (text : List Char) :
    Except Fault Skipping :=
  match skipBlanks text with
  | [] => .error (.before frame.atEnd [])
  | c :: rest =>
    if c = frame.closer then .ok ⟨frames, false, rest⟩
    else if opened then skipEntry frame frames (c :: rest)
    else if c = ',' then skipEntry frame frames rest
    else .error (.next frame.expectedCommaOrEnd (c :: rest))

/-- Goes on until no frame is open. Each step takes a character at least, so that the text at the
start of the value bounds their number. -/
def skipRest : List Char → Skipping → Except Fault (List Char)
  | budget, ⟨frames, opened, text⟩ =>
    match frames with
    | [] => .ok text
    | frame :: frames =>
      match budget with
      | [] => .error (.before frame.atEnd [])
      | _ :: budget =>
        match skipWithin frame frames opened text with
        | .error fault => .error fault
        | .ok next => skipRest budget next

def skipValue (text : List Char) : Except Fault (List Char) :=
  match skipStart [] text with
  | .error fault => .error fault
  | .ok start => skipRest text start

end SnapshotTypes.Json
