import SnapshotTypes.Snapshot
import SnapshotTypes.Emission
import SnapshotTypes.TypeName
import SnapshotTypes.Log
import SnapshotTypes.KeyedList

/-!
From a snapshot to the declarations of its types. Every listed collection gives one record, in the
order of first appearance, and an aggregate record maps the collection names to them. The log is
part of the result: it is there for a failure too, as far as the assembly came.
-/

set_option autoImplicit false

namespace SnapshotTypes

/-- A column type that has no TypeScript counterpart, as the snapshot writes it. -/
structure UnsupportedType where
  raw : String
deriving DecidableEq, Repr

def UnsupportedType.message (failure : UnsupportedType) : String :=
  "unsupported field type: " ++ failure.raw

/-- Name of the aggregate record, and of the namespace that holds the records in the nested
layout. -/
def aggregateName : String := "Schema"

/-- Dates of every kind are values of the built-in class. -/
def dateType : Ty := .reference "Date"

/-- The type of a column that is never null, for the column types that have one. -/
def FieldType.ty? : FieldType → Option Ty
  | boolean => some .boolean
  | date | dateTime | time | timestamp => some dateType
  | decimal | float | integer | bigInteger => some .number
  | hash | string | text | uuid => some .string
  | unknown | csv | json | aliased => some .unknown
  | geometry _ | binary | other _ => none

/-- The type of a field, which admits null exactly when its column does. -/
def Field.ty (field : Field) : Except UnsupportedType Ty :=
  match field.type.ty? with
  | none => .error ⟨field.type.rawText⟩
  | some base => .ok (if field.isNullable then base.nullable else base)

def Field.member (field : Field) : Except UnsupportedType Member :=
  match field.ty with
  | .error failure => .error failure
  | .ok ty => .ok ⟨field.name, ty⟩

/-- The members for a list of fields. The first field without a type decides the failure. -/
def membersOf : List Field → Except UnsupportedType (List Member)
  | [] => .ok []
  | field :: rest =>
    match field.member with
    | .error failure => .error failure
    | .ok member =>
      match membersOf rest with
      | .error failure => .error failure
      | .ok members => .ok (member :: members)

/-- The record of a collection, whether or not the snapshot lists it. -/
def Snapshot.record (snapshot : Snapshot) (collection : String) :
    Except UnsupportedType Declaration :=
  match membersOf (snapshot.fieldsOf collection) with
  | .error failure => .error failure
  | .ok members => .ok ⟨typeName collection, members⟩

abbrev RecordTable := KeyedList String Declaration

/-- Reported for every listing of a collection, repeated ones included. -/
def recordEntry (collection : String) (record : Declaration) : Log.Entry :=
  ⟨.debug, .assembly,
    s!"{collection} → {record.name} ({record.members.length} members)"⟩

/-- Adds the records of the listed collections to a table, one listing after the other. -/
def Snapshot.addRecords (snapshot : Snapshot) :
    List String → RecordTable → List Log.Entry × Except UnsupportedType RecordTable
  | [], table => ([], .ok table)
  | collection :: rest, table =>
    match snapshot.record collection with
    | .error failure => ([], .error failure)
    | .ok record =>
      let (log, result) := snapshot.addRecords rest (KeyedList.insert collection record table)
      (recordEntry collection record :: log, result)

/-- The fields whose collection has no record. They take no part in the declarations. -/
def orphanFields (snapshot : Snapshot) (table : RecordTable) : List Field :=
  snapshot.fields.filter fun field => field.collection ∉ KeyedList.keys table

def orphanEntry (field : Field) : Log.Entry :=
  ⟨.debug, .assembly, s!"skipping field {field.collection}.{field.name}: no such collection"⟩

/-- Two collections whose records have the same name. -/
structure NameCollision where
  typeName : String
  first : String
  second : String
deriving DecidableEq, Repr

/-- The collisions of a table whose names were seen before with the collections in `seen`, the
latest one first. A name that occurs often chains each collection to the one before it. -/
def collisionsAfter (seen : List (String × String)) : RecordTable → List NameCollision
  | [] => []
  | (collection, record) :: rest =>
    let later := collisionsAfter ((record.name, collection) :: seen) rest
    match seen.lookup record.name with
    | none => later
    | some first => ⟨record.name, first, collection⟩ :: later

def RecordTable.collisions (table : RecordTable) : List NameCollision :=
  collisionsAfter [] table

/-- Records that share a name are declared all the same. -/
def collisionEntry (collision : NameCollision) : Log.Entry :=
  ⟨.warn, .assembly,
    "collections `" ++ collision.first ++ "` and `" ++ collision.second ++
      "` both generate type `" ++ collision.typeName ++ "`"⟩

/-- The record that maps the name of each collection to its type. -/
def RecordTable.aggregate (table : RecordTable) : Declaration :=
  ⟨aggregateName, table.map fun entry => ⟨entry.1, .reference entry.2.name⟩⟩

/-- The aggregate comes last in either layout. -/
def RecordTable.arrange (table : RecordTable) : Layout → DeclarationFile
  | .topLevel => ⟨(KeyedList.values table).map .record ++ [.record table.aggregate]⟩
  | .nested => ⟨[.nested aggregateName (KeyedList.values table), .record table.aggregate]⟩

/-- The declarations for a snapshot, with the log of the assembly. One listed field without a
type fails the whole; fields of collections that are not listed are only reported. -/
def assemble (snapshot : Snapshot) (layout : Layout) :
    List Log.Entry × Except UnsupportedType DeclarationFile :=
  match snapshot.addRecords snapshot.collections [] with
  | (log, .error failure) => (log, .error failure)
  | (log, .ok table) =>
    (log ++ (orphanFields snapshot table).map orphanEntry ++
        table.collisions.map collisionEntry,
      .ok (table.arrange layout))

end SnapshotTypes
