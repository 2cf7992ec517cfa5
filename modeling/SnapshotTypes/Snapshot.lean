/-!
The part of a Directus schema snapshot that decides the generated types: the collection names, and
for each field its collection, its name, its column type and whether its column may be null.
-/

set_option autoImplicit false

namespace SnapshotTypes

/-- What a column stores. A text that is no column type of the format is kept as `other`, so that
an error can show it. -/
inductive FieldType where
  | boolean
  | date
  | dateTime
  | time
  | timestamp
  | decimal
  | float
  | integer
  | bigInteger
  | hash
  | string
  | text
  | uuid
  | unknown
  | csv
  | json
  | aliased
  | binary
  /-- `geometry`, or one of the `geometry.…` kinds, as written. -/
  | geometry (raw : String)
  | other (raw : String)
deriving DecidableEq, Repr

namespace FieldType

/-- The column types that are written as one fixed word. -/
def keywords : List (String × FieldType) :=
  [("boolean", boolean), ("date", date), ("dateTime", dateTime), ("time", time),
    ("timestamp", timestamp), ("decimal", decimal), ("float", float), ("integer", integer),
    ("bigInteger", bigInteger), ("hash", hash), ("string", string), ("text", text),
    ("uuid", uuid), ("unknown", unknown), ("csv", csv), ("json", json), ("alias", aliased),
    ("binary", binary)]

/-- The texts of the geometry family: the word itself, or the word, a dot and anything. -/
def isGeometry (raw : String) : Bool :=
  raw == "geometry" || "geometry.".toList.isPrefixOf raw.toList

/-- Letter case counts, and no text is refused. -/
def parse (raw : String) : FieldType :=
  match keywords.lookup raw with
  | some type => type
  | none => if isGeometry raw then geometry raw else other raw

def rawText : FieldType → String
  | boolean => "boolean"
  | date => "date"
  | dateTime => "dateTime"
  | time => "time"
  | timestamp => "timestamp"
  | decimal => "decimal"
  | float => "float"
  | integer => "integer"
  | bigInteger => "bigInteger"
  | hash => "hash"
  | string => "string"
  | text => "text"
  | uuid => "uuid"
  | unknown => "unknown"
  | csv => "csv"
  | json => "json"
  | aliased => "alias"
  | binary => "binary"
  | geometry raw => raw
  | other raw => raw

end FieldType

/-- The column behind a field, as far as the snapshot describes it. -/
structure FieldSchema where
  isNullable : Option Bool
deriving DecidableEq, Repr

structure Field where
  collection : String
  name : String
  type : FieldType
  schema : Option FieldSchema
deriving DecidableEq, Repr

/-- A column is taken to be non-null unless the snapshot says otherwise. -/
def Field.isNullable (field : Field) : Bool :=
  (field.schema.bind FieldSchema.isNullable).getD false

/-- Neither list is assumed to be free of repetitions, and a field may name a collection that is
not listed. -/
structure Snapshot where
  collections : List String
  fields : List Field
deriving DecidableEq, Repr

/-- The fields of one collection, in the order of the snapshot. -/
def Snapshot.fieldsOf (snapshot : Snapshot) (collection : String) : List Field :=
  snapshot.fields.filter fun field => field.collection = collection

end SnapshotTypes
