import SnapshotTypes.Decimal
import SnapshotTypes.Text.Spelled
import SnapshotTypes.Snapshot

/-!
Documents that hold a snapshot, independent of the notation they are written in.
-/

set_option autoImplicit false

namespace SnapshotTypes.Document

/-!
## Places

The keys and positions that lead from the root to a value.
-/

inductive Step where
  | key (name : String)
  | index (position : Nat)
  /-- A key that could not be read. -/
  | unreadable
deriving DecidableEq, Repr

/-- Steps from the root inwards. -/
abbrev Path := List Step

/-- A step that follows another one: positions attach directly, names after a dot. -/
def Step.continued : Step → String
  | .key name => "." ++ name
  | .index position => "[" ++ toString position ++ "]"
  | .unreadable => ".?"

def Step.leading : Step → String
  | .key name => name
  | .index position => "[" ++ toString position ++ "]"
  | .unreadable => "?"

/-- The root is written as a dot. -/
def Path.render : Path → String
  | [] => "."
  | step :: rest => rest.foldl (fun text next => text ++ next.continued) step.leading

/-!
## Mismatches

The ways in which a well-formed document can fail to be a snapshot.
-/

/-- A value as far as a complaint about it tells. -/
inductive Found where
  | null
  | boolean (value : Bool)
  | integer (value : Int)
  | float (value : Decimal.Binary64)
  | text (value : String)
  | sequence
  | mapping
deriving DecidableEq, Repr

/-- How a notation words the values that have no one spelling. -/
structure Wording where
  null : String
  float : Decimal.Style

/-- Integers that need more than 64 bits are marked with the width that holds them. -/
def describeInteger (value : Int) : String :=
  let plain := "integer `" ++ toString value ++ "`"
  if Decimal.twoTo 64 ≤ value then plain ++ " as u128"
  else if value < -Int.ofNat (Decimal.twoTo 63) then plain ++ " as i128"
  else plain

def Found.describe (wording : Wording) : Found → String
  | .null => wording.null
  | .boolean value => "boolean `" ++ toString value ++ "`"
  | .integer value => describeInteger value
  | .float value => "floating point `" ++ wording.float.write value ++ "`"
  | .text value => "string " ++ Text.spelled value
  | .sequence => "sequence"
  | .mapping => "map"

/-- A complaint about a value that could be read. -/
inductive Mismatch where
  /-- A value of another kind than the snapshot has in its place. -/
  | wrongKind (found : Found) (expected : String)
  /-- A text whose tag announces something else. -/
  | wrongText (text : String) (expected : String)
  | missing (key : String)
  | duplicate (key : String)
  /-- A record written as a sequence that ends too early. -/
  | wrongLength (count : Nat) (expected : String)
deriving DecidableEq, Repr

def Mismatch.message (wording : Wording) : Mismatch → String
  | .wrongKind found expected =>
    "invalid type: " ++ found.describe wording ++ ", expected " ++ expected
  | .wrongText text expected =>
    "invalid value: string " ++ Text.spelled text ++ ", expected " ++ expected
  | .missing key => "missing field `" ++ key ++ "`"
  | .duplicate key => "duplicate field `" ++ key ++ "`"
  | .wrongLength count expected =>
    "invalid length " ++ toString count ++ ", expected " ++ expected

/-- Where decoding stopped, and why. -/
structure Failure where
  path : Path
  message : String
deriving DecidableEq, Repr

/-!
## Shapes

A notation supplies readers for texts, flags, options, lists and records; the shape of a snapshot
puts them together.
-/

/-- Reads a value from a state and leaves the state after it. -/
abbrev Reader (σ φ α : Type) := σ → Except φ (α × σ)

namespace Reader

variable {σ φ α β : Type}

def map (change : α → β) (reader : Reader σ φ α) : Reader σ φ β := fun state =>
  match reader state with
  | .error failure => .error failure
  | .ok (value, rest) => .ok (change value, rest)

end Reader

/-- One key of a record. The values read so far are kept in a draft, which the value of the key
completes. -/
structure Slot (σ φ δ : Type) where
  key : String
  isFilled : δ → Bool
  read : Reader σ φ (δ → δ)

/-- A record with named slots, in the order of declaration. -/
structure RecordShape (σ φ δ α : Type) where
  title : String
  slots : List (Slot σ φ δ)
  blank : δ
  /-- The record, or the first key that has to be there and is not. -/
  finish : δ → Except String α

/-- What is expected where the record stands. -/
def RecordShape.expected {σ φ δ α : Type} (shape : RecordShape σ φ δ α) : String :=
  "struct " ++ shape.title

/-- What is expected where the record is written as a sequence of its values. -/
def RecordShape.expectedElements {σ φ δ α : Type} (shape : RecordShape σ φ δ α) : String :=
  let count := shape.slots.length
  shape.expected ++ " with " ++ toString count ++ (if count = 1 then " element" else " elements")

def RecordShape.slot? {σ φ δ α : Type} (shape : RecordShape σ φ δ α) (key : String) :
    Option (Slot σ φ δ) :=
  shape.slots.find? fun slot => slot.key = key

structure Notations (σ φ : Type) where
  text : Reader σ φ String
  flag : Reader σ φ Bool
  optional : {α : Type} → Reader σ φ α → Reader σ φ (Option α)
  list : {α : Type} → Reader σ φ α → Reader σ φ (List α)
  record : {δ α : Type} → RecordShape σ φ δ α → Reader σ φ α

def expectedText : String := "a string"

def expectedFlag : String := "a boolean"

def expectedList : String := "a sequence"

def required {α : Type} (key : String) : Option α → Except String α
  | none => .error key
  | some value => .ok value

structure FieldDraft where
  collection : Option String
  name : Option String
  type : Option FieldType
  schema : Option (Option FieldSchema)

structure SnapshotDraft where
  collections : Option (List String)
  fields : Option (List Field)

section Shapes

variable {σ φ : Type}

/-- A collection is a record of its name. -/
def collectionShape (notations : Notations σ φ) : RecordShape σ φ (Option String) String where
  title := "SnapshotCollection"
  slots := [⟨"collection", Option.isSome, notations.text.map fun name _ => some name⟩]
  blank := none
  finish draft := required "collection" draft

/-- Both an absent flag and a null one leave the nullability open. -/
def schemaShape (notations : Notations σ φ) :
    RecordShape σ φ (Option (Option Bool)) FieldSchema where
  title := "FieldSchema"
  slots := [⟨"is_nullable", Option.isSome,
    (notations.optional notations.flag).map fun flag _ => some flag⟩]
  blank := none
  finish draft := .ok ⟨draft.join⟩

def fieldShape (notations : Notations σ φ) : RecordShape σ φ FieldDraft Field where
  title := "SnapshotField"
  slots :=
    [⟨"collection", fun draft => draft.collection.isSome,
        notations.text.map fun text draft => { draft with collection := some text }⟩,
      ⟨"field", fun draft => draft.name.isSome,
        notations.text.map fun text draft => { draft with name := some text }⟩,
      ⟨"type", fun draft => draft.type.isSome,
        notations.text.map fun text draft => { draft with type := some (FieldType.parse text) }⟩,
      ⟨"schema", fun draft => draft.schema.isSome,
        (notations.optional (notations.record (schemaShape notations))).map
          fun schema draft => { draft with schema := some schema }⟩]
  blank := ⟨none, none, none, none⟩
  finish draft := do
    let collection ← required "collection" draft.collection
    let name ← required "field" draft.name
    let type ← required "type" draft.type
    .ok ⟨collection, name, type, draft.schema.join⟩

def snapshotShape (notations : Notations σ φ) : RecordShape σ φ SnapshotDraft Snapshot where
  title := "Snapshot"
  slots :=
    [⟨"collections", fun draft => draft.collections.isSome,
        (notations.list (notations.record (collectionShape notations))).map
          fun collections draft => { draft with collections := some collections }⟩,
      ⟨"fields", fun draft => draft.fields.isSome,
        (notations.list (notations.record (fieldShape notations))).map
          fun fields draft => { draft with fields := some fields }⟩]
  blank := ⟨none, none⟩
  finish draft := do
    let collections ← required "collections" draft.collections
    let fields ← required "fields" draft.fields
    .ok ⟨collections, fields⟩

def snapshotReader (notations : Notations σ φ) : Reader σ φ Snapshot :=
  notations.record (snapshotShape notations)

end Shapes

end SnapshotTypes.Document
