import SnapshotTypes.Proofs.Assembly.Partition
import SnapshotTypes.Proofs.TypeName.Identifiers

/-!
# The names in a file

Types of fields refer to the built-in `Date` or to nothing, and members of the aggregate refer to
the records of the collections. No type name is set apart for the built-in one, and none is checked
to be an identifier: both are left to the names of the collections.
-/

set_option autoImplicit false

namespace SnapshotTypes

/-!
## References
-/

mutual

def Ty.references : Ty → List String
  | .reference name => [name]
  | .union arms => Ty.referencesOf arms
  | .boolean | .number | .string | .unknown | .null => []

def Ty.referencesOf : List Ty → List String
  | [] => []
  | ty :: rest => ty.references ++ Ty.referencesOf rest

end

theorem Ty.references_nullable (ty : Ty) : ty.nullable.references = ty.references := by
  simp [Ty.nullable, Ty.references, Ty.referencesOf]

def FieldType.isDate : FieldType → Bool
  | date | dateTime | time | timestamp => true
  | _ => false

theorem FieldType.references_of_ty? {type : FieldType} {base : Ty} (typed : type.ty? = some base) :
    base.references = if type.isDate then ["Date"] else [] := by
  cases type <;> cases typed <;> rfl

theorem Field.Becomes.references_eq {field : Field} {member : Member}
    (becomes : field.Becomes member) :
    member.ty.references = if field.type.isDate then ["Date"] else [] := by
  obtain ⟨base, typed, same⟩ := Field.ty_eq_ok_iff.mp becomes.2
  rw [← FieldType.references_of_ty? typed, same]
  cases field.isNullable with
  | true => exact base.references_nullable
  | false => rfl

/-!
## All names of a file
-/

def Declaration.names (declaration : Declaration) : List String :=
  declaration.name :: declaration.members.flatMap fun member => member.ty.references

def Item.names : Item → List String
  | .record declaration => declaration.names
  | .nested name records => name :: records.flatMap Declaration.names

def DeclarationFile.names (file : DeclarationFile) : List String :=
  file.items.flatMap Item.names

theorem Item.mem_names_iff {item : Item} {name : String} :
    name ∈ item.names ↔
      (∃ records, item = .nested name records) ∨
        ∃ record ∈ item.declarations, name ∈ record.names := by
  cases item with
  | record declaration => simp [names, declarations]
  | nested own records => simp [names, declarations, eq_comm]

theorem DeclarationFile.mem_names_iff {file : DeclarationFile} {name : String} :
    name ∈ file.names ↔
      (∃ records, .nested name records ∈ file.items) ∨
        ∃ record ∈ file.declarations, name ∈ record.names := by
  simp only [names, declarations, List.mem_flatMap, Item.mem_names_iff]
  constructor
  · rintro ⟨item, listed, ⟨records, rfl⟩ | ⟨record, declared, member⟩⟩
    · exact .inl ⟨records, listed⟩
    · exact .inr ⟨record, ⟨item, listed, declared⟩, member⟩
  · rintro (⟨records, listed⟩ | ⟨record, ⟨item, listed, declared⟩, member⟩)
    · exact ⟨_, listed, .inl ⟨records, rfl⟩⟩
    · exact ⟨item, listed, .inr ⟨record, declared, member⟩⟩

theorem RecordTable.mem_aggregate_names_iff {table : RecordTable} {name : String} :
    name ∈ table.aggregate.names ↔
      name = aggregateName ∨ name ∈ table.values.map Declaration.name := by
  simp [Declaration.names, aggregate, KeyedList.values, List.flatMap_map, Ty.references, eq_comm]

namespace Snapshot

variable {snapshot : Snapshot} {names : List String} {table : RecordTable}

theorem IsRecordOf.mem_names {collection name : String} {record : Declaration}
    (belongs : snapshot.IsRecordOf collection record) (member : name ∈ record.names) :
    name = typeName collection ∨ name = "Date" := by
  rcases List.mem_cons.mp member with rfl | referred
  · exact .inl belongs.name
  · obtain ⟨own, present, refers⟩ := List.mem_flatMap.mp referred
    obtain ⟨field, _, becomes⟩ := belongs.exists_field present
    rw [becomes.references_eq] at refers
    cases date : field.type.isDate with
    | true =>
        rw [date, if_pos rfl, List.mem_singleton] at refers
        exact .inr refers
    | false =>
        rw [date] at refers
        cases refers

theorem Tabulates.mem_names (tabulated : snapshot.Tabulates names table) {layout : Layout}
    {name : String} (member : name ∈ (table.arrange layout).names) :
    name = "Schema" ∨ name = "Date" ∨ name ∈ names.map typeName := by
  rcases DeclarationFile.mem_names_iff.mp member with ⟨records, wraps⟩ | ⟨record, declared, within⟩
  · cases layout with
    | topLevel => simp [RecordTable.arrange] at wraps
    | nested =>
        have own : name = aggregateName ∧ records = table.values := by
          simpa [RecordTable.arrange] using wraps
        exact .inl own.1
  · rw [table.arrange_declarations, List.mem_append, List.mem_singleton] at declared
    rcases declared with listed | rfl
    · obtain ⟨collection, known, belongs⟩ :=
        exists_of_forall₂_of_mem tabulated.values_isRecordOf listed
      rcases belongs.mem_names within with rfl | rfl
      · exact .inr (.inr (List.mem_map_of_mem known))
      · exact .inr (.inl rfl)
    · rcases RecordTable.mem_aggregate_names_iff.mp within with rfl | referred
      · exact .inl rfl
      · exact .inr (.inr (tabulated.map_name ▸ referred))

theorem Tabulates.typeName_mem_names (tabulated : snapshot.Tabulates names table)
    {layout : Layout} {collection : String} (known : collection ∈ names) :
    typeName collection ∈ (table.arrange layout).names := by
  have named : typeName collection ∈ table.values.map Declaration.name := by
    rw [tabulated.map_name]
    exact List.mem_map_of_mem known
  obtain ⟨record, present, own⟩ := List.mem_map.mp named
  have declared : record ∈ (table.arrange layout).declarations := by
    rw [table.arrange_declarations]
    exact List.mem_append_left _ present
  apply DeclarationFile.mem_names_iff.mpr
  exact .inr ⟨record, declared, own ▸ List.mem_cons_self⟩

/-!
## The built-in `Date`
-/

theorem Tabulates.refersToDate_iff
    (tabulated : snapshot.Tabulates snapshot.collections.eraseDups table) :
    (∃ record ∈ table.values, ∃ member ∈ record.members, "Date" ∈ member.ty.references) ↔
      ∃ field ∈ snapshot.fields, field.collection ∈ snapshot.collections ∧
        field.type.isDate = true := by
  obtain ⟨members, become, same⟩ := tabulated.exists_members_perm
  have refers : ∀ {field : Field} {member : Member}, field.Becomes member →
      ("Date" ∈ member.ty.references ↔ field.type.isDate = true) := by
    intro field member becomes
    rw [becomes.references_eq]
    cases field.type.isDate <;> simp
  constructor
  · rintro ⟨record, listed, member, present, date⟩
    have within := same.mem_iff.mp (List.mem_flatMap.mpr ⟨record, listed, present⟩)
    obtain ⟨field, kept, becomes⟩ := exists_of_forall₂_of_mem become within
    rw [List.mem_filter, decide_eq_true_eq] at kept
    exact ⟨field, kept.1, kept.2, (refers becomes).mp date⟩
  · rintro ⟨field, present, known, date⟩
    have kept : field ∈ snapshot.fields.filter fun field =>
        field.collection ∈ snapshot.collections :=
      List.mem_filter.mpr ⟨present, decide_eq_true known⟩
    obtain ⟨member, within, becomes⟩ := exists_of_forall₂_of_mem become.flip kept
    obtain ⟨record, listed, owned⟩ := List.mem_flatMap.mp (same.mem_iff.mpr within)
    exact ⟨record, listed, member, owned, (refers becomes).mpr date⟩

/-- A file refers to `Date` exactly if a field of a listed collection is a date or a time, and
declares a record of this name exactly if a listed collection is named so. Nothing keeps one from
meeting the other. -/
theorem date_reference_and_record_iff {snapshot : Snapshot} {layout : Layout}
    {log : List Log.Entry} {file : DeclarationFile}
    (assembled : assemble snapshot layout = (log, .ok file)) :
    ((∃ record ∈ file.collectionRecords, ∃ member ∈ record.members,
        "Date" ∈ member.ty.references) ↔
      ∃ field ∈ snapshot.fields, field.collection ∈ snapshot.collections ∧
        field.type.isDate = true) ∧
      ((∃ record ∈ file.declarations, record.name = "Date") ↔
        ∃ collection ∈ snapshot.collections, unpadded collection ∈ ["Date", "date"]) := by
  obtain ⟨table, tabulated, rfl, rfl⟩ := exists_table_of_assemble assembled
  have declared : (∃ record ∈ (table.arrange layout).declarations, record.name = "Date") ↔
      "Date" ∈ snapshot.collections.eraseDups.map typeName ++ ["Schema"] := by
    rw [← tabulated.map_name_declarations layout, List.mem_map]
  rw [table.arrange_collectionRecords]
  refine ⟨tabulated.refersToDate_iff, declared.trans ?_⟩
  simp only [List.mem_append, List.mem_map, List.mem_eraseDups, typeName_eq_date_iff]
  simp

/-- The dates of posts are taken for records of the collection `date`, and no warning is given. -/
theorem date_captured_in_silence :
    let snapshot : Snapshot := ⟨["date", "posts"], [⟨"posts", "published", .dateTime, none⟩]⟩
    ∃ log file, assemble snapshot .topLevel = (log, .ok file) ∧
      (∀ entry ∈ log, entry.level ≠ .warn) ∧
      (∃ record ∈ file.collectionRecords, ∃ member ∈ record.members,
        "Date" ∈ member.ty.references) ∧
      ∃ record ∈ file.declarations, record.name = "Date" := by
  intro snapshot
  exact ⟨_, _, rfl, by decide, by decide, by decide⟩

/-- A collection whose name comes close to that of the built-in type. -/
theorem date_not_captured_by_dates :
    let snapshot : Snapshot := ⟨["dates", "da_te"], [⟨"dates", "since", .time, some ⟨some true⟩⟩]⟩
    ∃ log file, assemble snapshot .nested = (log, .ok file) ∧
      (∃ record ∈ file.collectionRecords, ∃ member ∈ record.members,
        "Date" ∈ member.ty.references) ∧
      ¬ ∃ record ∈ file.declarations, record.name = "Date" := by
  intro snapshot
  have assembled : assemble snapshot .nested = (_, .ok _) := rfl
  obtain ⟨refers, declares⟩ := date_reference_and_record_iff assembled
  exact ⟨_, _, assembled, refers.mpr (by decide),
    fun given => absurd (declares.mp given) (by decide)⟩

/-!
## Names that are identifiers
-/

/-- All names of a file are identifiers exactly if the names of the collections are, up to the
underscores at their ends. -/
theorem names_areIdentifiers_iff {snapshot : Snapshot} {layout : Layout} {log : List Log.Entry}
    {file : DeclarationFile} (assembled : assemble snapshot layout = (log, .ok file)) :
    (∀ name ∈ file.names, IsIdentifier name) ↔
      ∀ collection ∈ snapshot.collections, IsIdentifier (unpadded collection) := by
  obtain ⟨table, tabulated, rfl, rfl⟩ := exists_table_of_assemble assembled
  constructor
  · intro identifiers collection listed
    apply typeName_isIdentifier_iff.mp
    apply identifiers
    exact tabulated.typeName_mem_names (List.mem_eraseDups.mpr listed)
  · intro identifiers name member
    -- The two names that no collection gives are identifiers as they stand.
    rcases tabulated.mem_names member with rfl | rfl | known
    · decide
    · decide
    · obtain ⟨collection, listed, rfl⟩ := List.mem_map.mp known
      exact typeName_isIdentifier_iff.mpr (identifiers collection (List.mem_eraseDups.mp listed))

/-- The first segment of a name may begin with a digit, which no identifier does. -/
theorem names_not_identifiers_of_digit :
    let snapshot : Snapshot := ⟨["2fa_tokens"], []⟩
    ∃ log file, assemble snapshot .topLevel = (log, .ok file) ∧
      ∃ record ∈ file.declarations, record.name ∈ file.names ∧ record.name = "2faTokens" ∧
        ¬ IsIdentifier record.name := by
  intro snapshot
  exact ⟨_, _, rfl, by decide⟩

/-- Digits, dollar signs and characters outside of ASCII in the names of collections. -/
theorem names_areIdentifiers_of_mixed :
    let snapshot : Snapshot := ⟨["__éclair_ß_2", "$log_"], [⟨"$log_", "at time", .timestamp, none⟩]⟩
    ∃ log file, assemble snapshot .nested = (log, .ok file) ∧
      ∀ name ∈ file.names, IsIdentifier name := by
  intro snapshot
  have assembled : assemble snapshot .nested = (_, .ok _) := rfl
  exact ⟨_, _, assembled, (names_areIdentifiers_iff assembled).mpr (by decide)⟩

end Snapshot

end SnapshotTypes
