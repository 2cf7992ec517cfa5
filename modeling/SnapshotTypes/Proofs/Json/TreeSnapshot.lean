import SnapshotTypes.Proofs.Json.TreeReading
import SnapshotTypes.Decoding
import SnapshotTypes.Proofs.Json.RecordSimulation

/-!
# The snapshot read off a value

Each of the four records of a snapshot gives exactly what a value denotes, as an object and as a
list.
-/

set_option autoImplicit false

namespace SnapshotTypes.Json

open Document

/-!
## Collections and schemas
-/

theorem decides_collection :
    Decides (treeNotations.record (collectionShape treeNotations)) DenotesCollection := by
  intro tree name
  rw [valueOf?_record]
  cases tree with
  | object entries =>
      rw [record?, bind_finished?_eq_some_iff]
      simp only [foldlM_fillEntry_single (collectionShape treeNotations) decides_text rfl]
      constructor
      · intro given
        obtain ⟨draft, fills, finish⟩ := given
        obtain rfl := required_eq_ok_iff.mp finish
        obtain ⟨_, values, rfl⟩ := fills_none_some_iff.mp fills
        exact .object values
      · intro denotes
        cases denotes with
        | object values => exact ⟨some name, fills_none_some_iff.mpr ⟨_, values, rfl⟩, rfl⟩
  | list elements =>
      rw [record?, bind_finished?_eq_some_iff]
      simp only [collectionShape, decides_text.fillPositions_cons, fillPositions_nil_iff]
      constructor
      · intro given
        obtain ⟨_, ⟨_, _, text, rfl, rfl, rfl, rfl⟩, finish⟩ := given
        obtain rfl := Except.ok.inj finish
        exact .list
      · intro denotes
        cases denotes with
        | list => exact ⟨_, ⟨_, _, name, rfl, rfl, rfl, rfl⟩, rfl⟩
  | _ =>
      constructor
      · intro given
        cases given
      · intro denotes
        cases denotes

theorem decides_schema :
    Decides (treeNotations.record (schemaShape treeNotations)) DenotesSchema := by
  intro tree schema
  rw [valueOf?_record]
  cases tree with
  | object entries =>
      rw [record?, bind_finished?_eq_some_iff]
      simp only [foldlM_fillEntry_single (schemaShape treeNotations) decides_flag.nullable rfl]
      constructor
      · intro given
        obtain ⟨draft, fills, finish⟩ := given
        obtain rfl := Except.ok.inj finish
        exact .object (fills_none_iff.mp ⟨draft, fills, rfl⟩)
      · intro denotes
        cases denotes with
        | object values =>
            obtain ⟨draft, fills, rfl⟩ := fills_none_iff.mpr values
            exact ⟨draft, fills, rfl⟩
  | list elements =>
      rw [record?, bind_finished?_eq_some_iff]
      simp only [schemaShape, decides_flag.nullable.fillPositions_cons, fillPositions_nil_iff]
      constructor
      · intro given
        obtain ⟨_, ⟨_, _, nullable, rfl, means, rfl, rfl⟩, finish⟩ := given
        obtain rfl := Except.ok.inj finish
        exact .list means
      · intro denotes
        cases denotes with
        | list means => exact ⟨_, ⟨_, _, _, rfl, means, rfl, rfl⟩, rfl⟩
  | _ =>
      constructor
      · intro given
        cases given
      · intro denotes
        cases denotes

/-!
## Fields
-/

/-- A type text, as the type that it names. -/
def DenotesType (tree : Tree) (type : FieldType) : Prop :=
  ∃ raw, tree = .text raw ∧ .parse raw = type

theorem foldlM_fillEntry_field {entries : List (String × Tree)} {draft final : FieldDraft} :
    entries.foldlM (fillEntry (fieldShape treeNotations)) draft = some final ↔
      Fills (fun tree text => tree = .text text) (valuesOf "collection" entries) draft.collection
          final.collection ∧
        Fills (fun tree text => tree = .text text) (valuesOf "field" entries) draft.name
          final.name ∧
        Fills DenotesType (valuesOf "type" entries) draft.type final.type ∧
        Fills (DenotesNullable DenotesSchema) (valuesOf "schema" entries) draft.schema
          final.schema := by
  induction entries generalizing draft with
  | nil =>
      obtain ⟨collection, name, type, schema⟩ := draft
      obtain ⟨finalCollection, finalName, finalType, finalSchema⟩ := final
      simp
  | cons entry entries ih =>
      obtain ⟨key, tree⟩ := entry
      simp only [valuesOf_cons]
      -- One case for each key of the record: its slot completes its own part and keeps the others.
      by_cases isCollection : key = "collection"
      · have known : (fieldShape treeNotations).slot? key = some ⟨"collection",
            fun draft => draft.collection.isSome,
            treeNotations.text.map fun text draft => { draft with collection := some text }⟩ := by
          rw [isCollection]
          rfl
        rw [decides_text.foldlM_fillEntry known]
        simp [isCollection, ih]
        grind
      by_cases isName : key = "field"
      · have known : (fieldShape treeNotations).slot? key = some ⟨"field",
            fun draft => draft.name.isSome,
            treeNotations.text.map fun text draft => { draft with name := some text }⟩ := by
          rw [isName]
          rfl
        rw [decides_text.foldlM_fillEntry known]
        simp [isName, ih]
        grind
      by_cases isType : key = "type"
      · have known : (fieldShape treeNotations).slot? key = some ⟨"type",
            fun draft => draft.type.isSome,
            treeNotations.text.map fun raw draft => { draft with type := some (.parse raw) }⟩ := by
          rw [isType]
          rfl
        rw [decides_text.foldlM_fillEntry known]
        simp [isType, ih, DenotesType]
        grind
      by_cases isSchema : key = "schema"
      · have known : (fieldShape treeNotations).slot? key = some ⟨"schema",
            fun draft => draft.schema.isSome,
            (treeNotations.optional (treeNotations.record (schemaShape treeNotations))).map
              fun schema draft => { draft with schema := some schema }⟩ := by
          rw [isSchema]
          rfl
        rw [decides_schema.nullable.foldlM_fillEntry known]
        simp [isSchema, ih]
        grind
      · have unknown : (fieldShape treeNotations).slot? key = none := by
          simp [RecordShape.slot?, fieldShape, Ne.symm isCollection, Ne.symm isName,
            Ne.symm isType, Ne.symm isSchema]
        rw [foldlM_fillEntry_of_unknown unknown, ih]
        simp [isCollection, isName, isType, isSchema]

theorem fillPositions_field {elements : List Tree} {draft : FieldDraft} :
    fillPositions (fieldShape treeNotations).slots elements (fieldShape treeNotations).blank =
        some draft ↔
      ∃ collection name raw tree schema,
        elements = [.text collection, .text name, .text raw, tree] ∧
          DenotesNullable DenotesSchema tree schema ∧
          draft = ⟨some collection, some name, some (.parse raw), some schema⟩ := by
  simp only [fieldShape, decides_text.fillPositions_cons,
    decides_schema.nullable.fillPositions_cons, fillPositions_nil_iff]
  constructor
  · intro given
    obtain ⟨_, _, collection, rfl, rfl, given⟩ := given
    obtain ⟨_, _, name, rfl, rfl, given⟩ := given
    obtain ⟨_, _, raw, rfl, rfl, given⟩ := given
    obtain ⟨tree, _, schema, rfl, means, rfl, rfl⟩ := given
    exact ⟨collection, name, raw, tree, schema, rfl, means, rfl⟩
  · intro given
    obtain ⟨collection, name, raw, tree, schema, rfl, means, rfl⟩ := given
    refine ⟨_, _, collection, rfl, rfl, ?_⟩
    refine ⟨_, _, name, rfl, rfl, ?_⟩
    refine ⟨_, _, raw, rfl, rfl, ?_⟩
    exact ⟨tree, _, schema, rfl, means, rfl, rfl⟩

theorem fieldShape_finish_eq_ok_iff {draft : FieldDraft} {field : Field} :
    (fieldShape treeNotations).finish draft = .ok field ↔
      draft.collection = some field.collection ∧ draft.name = some field.name ∧
        draft.type = some field.type ∧ draft.schema.join = field.schema := by
  obtain ⟨collection, name, type, schema⟩ := draft
  obtain ⟨ownCollection, ownName, ownType, ownSchema⟩ := field
  cases collection <;> cases name <;> cases type <;>
    simp [fieldShape, required, bind, Except.bind]

theorem decides_field :
    Decides (treeNotations.record (fieldShape treeNotations)) DenotesField := by
  intro tree field
  obtain ⟨collection, name, type, schema⟩ := field
  rw [valueOf?_record]
  cases tree with
  | object entries =>
      rw [record?, bind_finished?_eq_some_iff]
      simp only [foldlM_fillEntry_field, fieldShape_finish_eq_ok_iff]
      constructor
      · intro given
        obtain ⟨⟨_, _, _, part⟩, fills, rfl, rfl, rfl, joined⟩ := given
        obtain ⟨collections, names, types, schemas⟩ := fills
        obtain ⟨_, oneCollection, rfl⟩ := fills_none_some_iff.mp collections
        obtain ⟨_, oneName, rfl⟩ := fills_none_some_iff.mp names
        obtain ⟨_, oneType, raw, rfl, rfl⟩ := fills_none_some_iff.mp types
        exact .object oneCollection oneName oneType (fills_none_iff.mp ⟨part, schemas, joined⟩)
      · intro denotes
        cases denotes with
        | object oneCollection oneName oneType schemas =>
            obtain ⟨part, schemas, joined⟩ := fills_none_iff.mpr schemas
            refine ⟨⟨_, _, _, part⟩, ⟨?_, ?_, ?_, schemas⟩, rfl, rfl, rfl, joined⟩
            · exact fills_none_some_iff.mpr ⟨_, oneCollection, rfl⟩
            · exact fills_none_some_iff.mpr ⟨_, oneName, rfl⟩
            · exact fills_none_some_iff.mpr ⟨_, oneType, _, rfl, rfl⟩
  | list elements =>
      rw [record?, bind_finished?_eq_some_iff]
      simp only [fillPositions_field, fieldShape_finish_eq_ok_iff]
      constructor
      · intro given
        obtain ⟨_, ⟨_, _, raw, tree, _, rfl, means, rfl⟩, finished⟩ := given
        obtain ⟨⟨⟩, ⟨⟩, ⟨⟩, rfl⟩ := finished
        exact .list means
      · intro denotes
        cases denotes with
        | list means => exact ⟨_, ⟨_, _, _, _, _, rfl, means, rfl⟩, rfl, rfl, rfl, rfl⟩
  | _ =>
      constructor
      · intro given
        cases given
      · intro denotes
        cases denotes

/-!
## Snapshots
-/

theorem foldlM_fillEntry_snapshot {entries : List (String × Tree)} {draft final : SnapshotDraft}
    {Listed : Tree → List String → Prop} {Described : Tree → List Field → Prop}
    (readsListed : Decides
      (treeNotations.list (treeNotations.record (collectionShape treeNotations))) Listed)
    (readsDescribed : Decides
      (treeNotations.list (treeNotations.record (fieldShape treeNotations))) Described) :
    entries.foldlM (fillEntry (snapshotShape treeNotations)) draft = some final ↔
      Fills Listed (valuesOf "collections" entries) draft.collections final.collections ∧
        Fills Described (valuesOf "fields" entries) draft.fields final.fields := by
  induction entries generalizing draft with
  | nil =>
      obtain ⟨collections, fields⟩ := draft
      obtain ⟨finalCollections, finalFields⟩ := final
      simp
  | cons entry entries ih =>
      obtain ⟨key, tree⟩ := entry
      simp only [valuesOf_cons]
      by_cases isCollections : key = "collections"
      · have known : (snapshotShape treeNotations).slot? key = some ⟨"collections",
            fun draft => draft.collections.isSome,
            (treeNotations.list (treeNotations.record (collectionShape treeNotations))).map
              fun collections draft => { draft with collections := some collections }⟩ := by
          rw [isCollections]
          rfl
        rw [readsListed.foldlM_fillEntry known]
        simp [isCollections, ih]
        grind
      by_cases isFields : key = "fields"
      · have known : (snapshotShape treeNotations).slot? key = some ⟨"fields",
            fun draft => draft.fields.isSome,
            (treeNotations.list (treeNotations.record (fieldShape treeNotations))).map
              fun fields draft => { draft with fields := some fields }⟩ := by
          rw [isFields]
          rfl
        rw [readsDescribed.foldlM_fillEntry known]
        simp [isFields, ih]
        grind
      · have unknown : (snapshotShape treeNotations).slot? key = none := by
          simp [RecordShape.slot?, snapshotShape, Ne.symm isCollections, Ne.symm isFields]
        rw [foldlM_fillEntry_of_unknown unknown, ih]
        simp [isCollections, isFields]

theorem snapshotShape_finish_eq_ok_iff {draft : SnapshotDraft} {snapshot : Snapshot} :
    (snapshotShape treeNotations).finish draft = .ok snapshot ↔
      draft.collections = some snapshot.collections ∧ draft.fields = some snapshot.fields := by
  obtain ⟨collections, fields⟩ := draft
  obtain ⟨ownCollections, ownFields⟩ := snapshot
  cases collections <;> cases fields <;> simp [snapshotShape, required, bind, Except.bind]

theorem fillPositions_snapshot {elements : List Tree} {draft : SnapshotDraft} :
    fillPositions (snapshotShape treeNotations).slots elements
        (snapshotShape treeNotations).blank = some draft ↔
      ∃ listed described collections fields, elements = [.list listed, .list described] ∧
        List.Forall₂ DenotesCollection listed collections ∧
        List.Forall₂ DenotesField described fields ∧
        draft = ⟨some collections, some fields⟩ := by
  simp only [snapshotShape, decides_collection.list.fillPositions_cons,
    decides_field.list.fillPositions_cons, fillPositions_nil_iff]
  constructor
  · intro given
    obtain ⟨_, _, collections, rfl, ⟨listed, rfl, names⟩, given⟩ := given
    obtain ⟨_, _, fields, rfl, ⟨described, rfl, means⟩, rfl, rfl⟩ := given
    exact ⟨listed, described, collections, fields, rfl, names, means, rfl⟩
  · intro given
    obtain ⟨listed, described, collections, fields, rfl, names, means, rfl⟩ := given
    refine ⟨_, _, collections, rfl, ⟨listed, rfl, names⟩, ?_⟩
    exact ⟨_, _, fields, rfl, ⟨described, rfl, means⟩, rfl, rfl⟩

/-- The shape of a snapshot document gives exactly the snapshot that a value denotes. -/
theorem decides_snapshot : Decides (snapshotReader treeNotations) DenotesSnapshot := by
  intro tree snapshot
  obtain ⟨collections, fields⟩ := snapshot
  rw [snapshotReader, valueOf?_record]
  cases tree with
  | object entries =>
      rw [record?, bind_finished?_eq_some_iff]
      simp only [foldlM_fillEntry_snapshot decides_collection.list decides_field.list,
        snapshotShape_finish_eq_ok_iff]
      constructor
      · intro given
        obtain ⟨⟨_, _⟩, ⟨listings, descriptions⟩, rfl, rfl⟩ := given
        obtain ⟨_, oneListing, listed, rfl, names⟩ := fills_none_some_iff.mp listings
        obtain ⟨_, oneDescription, described, rfl, means⟩ := fills_none_some_iff.mp descriptions
        exact .object oneListing oneDescription names means
      · intro denotes
        cases denotes with
        | object oneListing oneDescription names means =>
            refine ⟨⟨_, _⟩, ⟨?_, ?_⟩, rfl, rfl⟩
            · exact fills_none_some_iff.mpr ⟨_, oneListing, _, rfl, names⟩
            · exact fills_none_some_iff.mpr ⟨_, oneDescription, _, rfl, means⟩
  | list elements =>
      rw [record?, bind_finished?_eq_some_iff]
      simp only [fillPositions_snapshot, snapshotShape_finish_eq_ok_iff]
      constructor
      · intro given
        obtain ⟨_, ⟨listed, described, _, _, rfl, names, means, rfl⟩, ⟨⟩, ⟨⟩⟩ := given
        exact .list names means
      · intro denotes
        cases denotes with
        | list names means => exact ⟨_, ⟨_, _, _, _, rfl, names, means, rfl⟩, rfl, rfl⟩
  | _ =>
      constructor
      · intro given
        cases given
      · intro denotes
        cases denotes

/-!
## Decoding of JSON

A JSON text decodes to exactly the snapshot that its value denotes, whatever way the value is
written.
-/

theorem exists_agrees_of_isDocument {tree : Tree} {source : String}
    (document : IsDocument tree source) :
    ∃ after, Agrees after (valueOf? (snapshotReader treeNotations) tree)
      (snapshotReader notations source.toList) := by
  obtain ⟨before, text, after, blanks, written, afterBlanks, spelled⟩ := document
  have delimited : IsDelimited after := by
    rw [← List.append_nil after]
    exact isDelimited_append afterBlanks isDelimited_nil
  rw [spelled]
  exact ⟨after, simulates_snapshot.record written blanks delimited⟩

end SnapshotTypes.Json

namespace SnapshotTypes

open Json Document

/-- Decoding a text of a value gives a snapshot exactly if the value denotes it. -/
theorem Snapshot.parse_json_eq_ok_iff_denotes {tree : Tree} {source : String}
    (document : IsDocument tree source) (snapshot : Snapshot) :
    Snapshot.parse source .json = .ok snapshot ↔ DenotesSnapshot tree snapshot := by
  obtain ⟨after, agrees⟩ := exists_agrees_of_isDocument document
  rw [Snapshot.parse, parseSnapshot, ← decides_snapshot tree snapshot]
  rcases agrees with ⟨worth, fault, failed⟩ | ⟨value, worth, read⟩
  · simp [worth, failed]
  · simp [worth, read]

/-- A key that no snapshot has is passed over with its value, and a list stands for a record. -/
theorem Snapshot.parse_json_unknown_key :
    Snapshot.parse ("\x7b\"note\": [-1.5, \x7b\x7d],\n \"fields\": [], " ++
        "\"collections\": [[\"a\\n\"]]\x7d") .json =
      .ok ⟨["a\n"], []⟩ := by
  have wide : AreBlanks [' '] := by decide
  have broken : AreBlanks ['\n', ' '] := by decide
  have number : Written (.number ⟨true, ['1'], ['.', '5'], [],
      .digits (by decide) (by decide) (by decide), .digits (by decide), .absent⟩) _ := .number _
  have note : Written (.list [.number _, .object []]) _ :=
    .list (.first areBlanks_nil number
      (.next areBlanks_nil wide (.object (.finished areBlanks_nil)) (.finished areBlanks_nil)))
  have listed : Written (.list [.list [.text "a\n"]]) _ :=
    .list (.first areBlanks_nil
      (.list (.first areBlanks_nil (.text "a\n") (.finished areBlanks_nil)))
      (.finished areBlanks_nil))
  have written : Written (.object [("note", _), ("fields", .list []), ("collections", _)]) _ :=
    .object (.first areBlanks_nil (.entry areBlanks_nil wide note)
      (.next areBlanks_nil broken (.entry areBlanks_nil wide (.list (.finished areBlanks_nil)))
        (.next areBlanks_nil wide (.entry areBlanks_nil wide listed) (.finished areBlanks_nil))))
  exact (Snapshot.parse_json_eq_ok_iff_denotes
    ⟨[], _, [], areBlanks_nil, written, areBlanks_nil, by decide⟩ _).mpr
    (.object rfl rfl (.cons .list .nil) .nil)

end SnapshotTypes
