import SnapshotTypes.Yaml.Node
import SnapshotTypes.Yaml.Value
import SnapshotTypes.Document

/-!
Snapshots in YAML. A record is a mapping, or nothing at all if none of its keys has to be there.
Texts are taken as written, whatever they would denote elsewhere. What is read before a defect of
the document is judged first.
-/

set_option autoImplicit false

namespace SnapshotTypes.Yaml

open Document (Mismatch Found Wording Path Step Failure Reader RecordShape Notations)
open Document (expectedText expectedFlag expectedList)

inductive Cause where
  | defect (defect : Defect)
  | mismatch (mismatch : Mismatch)
deriving DecidableEq, Repr

/-- A fault, with the path that leads to it. A complaint about a value also shows the mark of the
value and the keys that lead there, as the document writes them. -/
structure Fault where
  cause : Cause
  path : Path
  shown : Option (Path × Mark)
deriving DecidableEq, Repr

namespace Fault

/-- A fault of an inner value, seen from outside. `step` leads to it, and `shown` is how the
document writes the step. -/
def within (fault : Fault) (step shown : Step) : Fault :=
  { fault with
    path := step :: fault.path
    shown := fault.shown.map fun (path, mark) => (shown :: path, mark) }

/-- A complaint without a mark gets that of the value being read. -/
def marked (fault : Fault) (mark : Mark) : Fault :=
  match fault.cause, fault.shown with
  | .mismatch _, none => { fault with shown := some ([], mark) }
  | _, _ => fault

def ofMismatch (mismatch : Mismatch) : Fault :=
  ⟨.mismatch mismatch, [], none⟩

def ofDefect (defect : Defect) : Fault :=
  ⟨.defect defect, [], none⟩

end Fault

/-- Null is the unit value, and numbers are written without exponents, a tie going up. -/
def wording : Wording where
  null := "unit value"
  float := ⟨.up, fun _ => true⟩

/-- The keys before a complaint. There are none at the root. -/
def shownPath (path : Path) : String :=
  if path = [] then "" else path.render ++ ": "

def Fault.message (fault : Fault) : String :=
  match fault.cause with
  | .defect defect => defect.message
  | .mismatch mismatch =>
    match fault.shown with
    | none => mismatch.message wording
    | some (path, mark) => shownPath path ++ mismatch.message wording ++ mark.suffix

def Fault.failure (fault : Fault) : Failure :=
  ⟨fault.path, fault.message⟩

abbrev Nodes := List (Node × Mark)

abbrev YamlReader (α : Type) := Reader Nodes Fault α

def NodeStream.exhausted (document : NodeStream) : Fault :=
  match document.defect with
  | some defect => .ofDefect defect
  | none => .ofDefect .moreDocuments

section Readers

variable (document : NodeStream) {α : Type}

/-- Names the mark of the value being read in a complaint that has none. -/
def marking (mark : Mark) : Except Fault α → Except Fault α
  | .error fault => .error (fault.marked mark)
  | .ok value => .ok value

/-- Reads the node that an alias stands for, and goes on after the alias. Anchors mark no aliases,
so that one step is enough. -/
def followed (reader : YamlReader α) : YamlReader α
  | [] => .error document.exhausted
  | (.aliased anchor, mark) :: rest =>
    match marking mark (reader (document.nodesFrom anchor)) with
    | .error fault => .error fault
    | .ok (value, _) => .ok (value, rest)
  | nodes => reader nodes

def kindMismatch (expected : String) : Node → Mismatch
  | .scalar tag text style => scalarMismatch tag (String.ofList text) style expected
  | .sequenceStart | .sequenceEnd => .wrongKind .sequence expected
  | .mappingStart | .mappingEnd => .wrongKind .mapping expected
  | .aliased _ | .absent => .wrongKind .null expected

/-- A plain scalar without text, which stands for a collection without entries. -/
def isVacant : Node → Bool
  | .absent => true
  | .scalar _ text style => text.isEmpty && style == .plain
  | _ => false

/-- Reads the text of a scalar, whatever it is expected for. -/
def readTextAs (expected : String) : YamlReader String :=
  followed document fun
    | [] => .error document.exhausted
    | (node, mark) :: rest =>
      match node with
      | .scalar _ text _ => .ok (String.ofList text, rest)
      | node => .error ((Fault.ofMismatch (kindMismatch expected node)).marked mark)

/-- Booleans are plain, or literal and tagged as such. -/
def flag? : Node → Option Bool
  | .scalar tag text style =>
    if style = .plain ∨ (style = .literal ∧ tag = some (coreTag "bool")) then
      boolean? (String.ofList text)
    else none
  | _ => none

def readFlag : YamlReader Bool :=
  followed document fun
    | [] => .error document.exhausted
    | (node, mark) :: rest =>
      match flag? node with
      | some value => .ok (value, rest)
      | none => .error ((Fault.ofMismatch (kindMismatch expectedFlag node)).marked mark)

/-- Whether a node stands for a value that may be left out, or the complaint about a text that is
tagged as null and is not. -/
def isPresent : Node → Except Mismatch Bool
  | .absent => .ok false
  | .scalar tag text style =>
    let isNull := isNullWord (String.ofList text)
    if style ≠ .plain then .ok true
    else
      match tag with
      | none => .ok (!text.isEmpty && !isNull)
      | some tag =>
        if tag ≠ coreTag "null" then .ok true
        else if isNull then .ok false
        else .error (.wrongText (String.ofList text) "null")
  | _ => .ok true

def readOptional (reader : YamlReader α) : YamlReader (Option α)
  | [] => .error document.exhausted
  | (node, mark) :: rest =>
    let read (nodes : Nodes) (node : Node) (rest : Nodes) : Except Fault (Option α × Nodes) :=
      match isPresent node with
      | .error mismatch => .error (.ofMismatch mismatch)
      | .ok false => .ok (none, rest)
      | .ok true =>
        match reader nodes with
        | .error fault => .error fault
        | .ok (value, rest) => .ok (some value, rest)
    match node with
    | .aliased anchor =>
      match document.nodesFrom anchor with
      | [] => .error document.exhausted
      | (target, mark) :: after =>
        match read ((target, mark) :: after) target after with
        | .error fault => .error fault
        | .ok (value, _) => .ok (value, rest)
    | node => read ((node, mark) :: rest) node rest

/-- Skips a node with all that it holds; `depth` collections are open around it. -/
def skipNode : Nat → Nodes → Except Fault Nodes
  | _, [] => .error document.exhausted
  | depth, (node, _) :: rest =>
    match node with
    | .sequenceStart | .mappingStart => skipNode (depth + 1) rest
    | .sequenceEnd | .mappingEnd =>
      if depth ≤ 1 then .ok rest else skipNode (depth - 1) rest
    | .aliased _ | .scalar _ _ _ | .absent => if depth = 0 then .ok rest else skipNode depth rest

/-- The elements from `position` on, and the nodes after the end of the sequence. Each takes a
node at least, so that the nodes at the start of the sequence bound their number. -/
def readElements (reader : YamlReader α) :
    Nodes → Nat → Nodes → Except Fault (List α × Nodes)
  | [], _, _ => .error document.exhausted
  | _ :: _, _, [] => .error document.exhausted
  | _ :: budget, position, (node, mark) :: rest =>
    if node = .sequenceEnd then .ok ([], rest)
    else
      match reader ((node, mark) :: rest) with
      | .error fault => .error (fault.within (.index position) (.index position))
      | .ok (value, rest) =>
        match readElements reader budget (position + 1) rest with
        | .error fault => .error fault
        | .ok (values, rest) => .ok (value :: values, rest)

def readList (reader : YamlReader α) : YamlReader (List α) :=
  followed document fun
    | [] => .error document.exhausted
    | (node, mark) :: rest =>
      if node = .sequenceStart then
        marking mark (readElements document reader ((node, mark) :: rest) 0 rest)
      else if isVacant node then .ok ([], rest)
      else .error ((Fault.ofMismatch (kindMismatch expectedList node)).marked mark)

end Readers

section Records

variable (document : NodeStream) {δ α : Type}

/-- A key as text. Only a key that is written as a scalar is shown in complaints. -/
structure KeyText where
  text : String
  shown : Step

def readKey : YamlReader KeyText
  | [] => .error document.exhausted
  | (node, mark) :: rest =>
    match readTextAs document "field identifier" ((node, mark) :: rest) with
    | .error fault => .error { fault with path := .unreadable :: fault.path }
    | .ok (text, rest) =>
      .ok (⟨text, match node with
        | .scalar _ _ _ => .key text
        | _ => .unreadable⟩, rest)

/-- The value of a key: it completes the draft if the record has the key. -/
def readEntry (shape : RecordShape Nodes Fault δ α) (key : KeyText) (draft : δ) (nodes : Nodes) :
    Except Fault (δ × Nodes) :=
  let inner (fault : Fault) : Fault := fault.within (.key key.text) key.shown
  match shape.slot? key.text with
  | none =>
    match skipNode document 0 nodes with
    | .error fault => .error (inner fault)
    | .ok rest => .ok (draft, rest)
  | some slot =>
    if slot.isFilled draft then .error (.ofMismatch (.duplicate key.text))
    else
      match slot.read nodes with
      | .error fault => .error (inner fault)
      | .ok (complete, rest) => .ok (complete draft, rest)

/-- The draft with the entries of a mapping, and the nodes after its end. -/
def readEntries (shape : RecordShape Nodes Fault δ α) :
    Nodes → δ → Nodes → Except Fault (δ × Nodes)
  | [], _, _ => .error document.exhausted
  | _ :: _, _, [] =>
    .error { document.exhausted with path := [.unreadable] }
  | _ :: budget, draft, (node, mark) :: rest =>
    if node = .mappingEnd then .ok (draft, rest)
    else
      match readKey document ((node, mark) :: rest) with
      | .error fault => .error fault
      | .ok (key, rest) =>
        match readEntry document shape key draft rest with
        | .error fault => .error fault
        | .ok (draft, rest) => readEntries shape budget draft rest

def finishRecord (shape : RecordShape Nodes Fault δ α) (draft : δ) (rest : Nodes) :
    Except Fault (α × Nodes) :=
  match shape.finish draft with
  | .error key => .error (.ofMismatch (.missing key))
  | .ok value => .ok (value, rest)

def readRecord (shape : RecordShape Nodes Fault δ α) : YamlReader α :=
  followed document fun
    | [] => .error document.exhausted
    | (node, mark) :: rest => marking mark <|
      if node = .mappingStart then
        match readEntries document shape ((node, mark) :: rest) shape.blank rest with
        | .error fault => .error fault
        | .ok (draft, rest) => finishRecord shape draft rest
      else if isVacant node then finishRecord shape shape.blank rest
      else .error (.ofMismatch (kindMismatch shape.expected node))

end Records

def notations (document : NodeStream) : Notations Nodes Fault where
  text := readTextAs document expectedText
  flag := readFlag document
  optional := readOptional document
  list := readList document
  record := readRecord document

/-- The snapshot that a document holds. A defect after its last node that was read counts too. -/
def readSnapshot (document : NodeStream) : Except Fault Snapshot :=
  match Document.snapshotReader (notations document) document.nodes with
  | .error fault => .error fault
  | .ok (snapshot, _) =>
    match document.defect with
    | some defect => .error (.ofDefect defect)
    | none => .ok snapshot

def parseSnapshot (source : String) : Except Failure Snapshot :=
  match readSnapshot (.ofText source.toList) with
  | .error fault => .error fault.failure
  | .ok snapshot => .ok snapshot

end SnapshotTypes.Yaml
