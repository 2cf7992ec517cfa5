import SnapshotTypes.Proofs.Assembly.RecordTable

/-!
# The declarations of a snapshot

A reference translation that is said without tables and runs: the distinct collections in the order
of first appearance, one record for each, and the aggregate at the end. Assembling succeeds exactly
with this translation, in either layout.
-/

set_option autoImplicit false

namespace SnapshotTypes

/-- The aggregate of a list of collections: each name refers to the type of its collection. -/
def aggregateOf (collections : List String) : Declaration :=
  ⟨"Schema", collections.map fun collection => ⟨collection, .reference (typeName collection)⟩⟩

/-- The items of either layout: the records side by side, or in a namespace of their own. -/
def itemsFor (records : List Declaration) (aggregate : Declaration) : Layout → List Item
  | .topLevel => records.map .record ++ [.record aggregate]
  | .nested => [.nested "Schema" records, .record aggregate]

/-- Neither the number of listings of a collection nor clashes of type names play a part: the
records belong to the distinct collections, in the order in which they appear first. -/
def Snapshot.IsTranslation (snapshot : Snapshot) (layout : Layout)
    (file : DeclarationFile) : Prop :=
  ∃ records,
    List.Forall₂ snapshot.IsRecordOf snapshot.collections.eraseDups records ∧
      file.items = itemsFor records (aggregateOf snapshot.collections.eraseDups) layout

namespace Snapshot

variable {snapshot : Snapshot} {names : List String}

theorem Tabulates.values_isRecordOf {table : RecordTable}
    (tabulated : snapshot.Tabulates names table) :
    List.Forall₂ snapshot.IsRecordOf names table.values := by
  induction tabulated with
  | nil => exact .nil
  | cons head _ ih => exact .cons (record_eq_ok_iff.mp head.2) ih

theorem tabulates_zip {records : List Declaration}
    (belong : List.Forall₂ snapshot.IsRecordOf names records) :
    snapshot.Tabulates names (names.zip records) := by
  induction belong with
  | nil => exact .nil
  | cons head _ ih => exact .cons ⟨rfl, record_eq_ok_iff.mpr head⟩ ih

theorem Tabulates.aggregate_eq {table : RecordTable} (tabulated : snapshot.Tabulates names table) :
    table.aggregate = aggregateOf names := by
  have members : table.map (fun entry => (⟨entry.1, .reference entry.2.name⟩ : Member)) =
      names.map fun name => ⟨name, .reference (typeName name)⟩ := by
    induction tabulated with
    | nil => rfl
    | cons head _ ih =>
        obtain ⟨rfl, recorded⟩ := head
        rw [List.map_cons, List.map_cons, ih, (record_eq_ok_iff.mp recorded).name]
  rw [RecordTable.aggregate, members]
  rfl

theorem Tabulates.arrange_items {table : RecordTable} (tabulated : snapshot.Tabulates names table)
    (layout : Layout) :
    (table.arrange layout).items = itemsFor table.values (aggregateOf names) layout := by
  rw [← tabulated.aggregate_eq]
  cases layout <;> rfl

/-- What assembling gives for a snapshot whose records are complete. Only the arrangement depends on
the layout. -/
theorem assemble_of_tabulates {table : RecordTable}
    (tabulated : snapshot.Tabulates snapshot.collections.eraseDups table) (layout : Layout) :
    assemble snapshot layout =
      (snapshot.collections.map snapshot.listingEntry ++
          (orphanFields snapshot table).map orphanEntry ++ table.collisions.map collisionEntry,
        .ok (table.arrange layout)) := by
  have start : snapshot.Tabulates ([] : List String).eraseDups [] := .nil
  have finished : snapshot.addRecords snapshot.collections [] =
      (snapshot.collections.map snapshot.listingEntry, .ok table) :=
    (addRecords_eq_ok_iff start).mpr ⟨rfl, tabulated⟩
  rw [assemble, finished]

theorem assemble_result_eq_ok_iff {layout : Layout} {file : DeclarationFile} :
    (assemble snapshot layout).2 = .ok file ↔
      ∃ table, snapshot.Tabulates snapshot.collections.eraseDups table ∧
        file = table.arrange layout := by
  constructor
  · intro assembled
    rw [assemble] at assembled
    cases run : snapshot.addRecords snapshot.collections [] with
    | mk log outcome =>
        cases outcome with
        | error failure =>
            rw [run] at assembled
            cases assembled
        | ok table =>
            have start : snapshot.Tabulates ([] : List String).eraseDups [] := .nil
            have complete := ((addRecords_eq_ok_iff start).mp run).2
            rw [List.nil_append] at complete
            rw [run] at assembled
            exact ⟨table, complete, (Except.ok.inj assembled).symm⟩
  · intro given
    obtain ⟨table, complete, rfl⟩ := given
    rw [assemble_of_tabulates complete]

theorem exists_table_of_assemble {layout : Layout} {log : List Log.Entry} {file : DeclarationFile}
    (assembled : assemble snapshot layout = (log, .ok file)) :
    ∃ table, snapshot.Tabulates snapshot.collections.eraseDups table ∧
      log = snapshot.collections.map snapshot.listingEntry ++
        (orphanFields snapshot table).map orphanEntry ++ table.collisions.map collisionEntry ∧
      file = table.arrange layout := by
  obtain ⟨table, tabulated, arranged⟩ :=
    assemble_result_eq_ok_iff.mp (congrArg Prod.snd assembled)
  rw [assemble_of_tabulates tabulated, Prod.mk.injEq] at assembled
  exact ⟨table, tabulated, assembled.1.symm, arranged⟩

/-- Assembling succeeds exactly with the reference translation of the snapshot. -/
theorem assemble_eq_ok_iff_isTranslation (snapshot : Snapshot) (layout : Layout)
    (file : DeclarationFile) :
    (assemble snapshot layout).2 = .ok file ↔ snapshot.IsTranslation layout file := by
  rw [assemble_result_eq_ok_iff]
  constructor
  · intro given
    obtain ⟨table, tabulated, rfl⟩ := given
    exact ⟨table.values, tabulated.values_isRecordOf, tabulated.arrange_items layout⟩
  · intro given
    obtain ⟨records, belong, items⟩ := given
    have tabulated := tabulates_zip belong
    have values : KeyedList.values (snapshot.collections.eraseDups.zip records) = records :=
      List.map_snd_zip (Nat.le_of_eq belong.length_eq.symm)
    have arranged := tabulated.arrange_items layout
    rw [values, ← items] at arranged
    exact ⟨_, tabulated, congrArg DeclarationFile.mk arranged.symm⟩

end Snapshot

/-!
## What a file declares

The records of a file stand beside each other or in a namespace. In an assembled file the aggregate
comes last, and all records before it belong to collections.
-/

def Item.declarations : Item → List Declaration
  | .record declaration => [declaration]
  | .nested _ records => records

namespace DeclarationFile

def declarations (file : DeclarationFile) : List Declaration :=
  file.items.flatMap Item.declarations

/-- The records before the last item, which is the aggregate of an assembled file. -/
def collectionRecords (file : DeclarationFile) : List Declaration :=
  file.items.dropLast.flatMap Item.declarations

end DeclarationFile

namespace RecordTable

variable (table : RecordTable) (layout : Layout)

theorem arrange_collectionRecords :
    (table.arrange layout).collectionRecords = KeyedList.values table := by
  cases layout with
  | topLevel =>
      rw [arrange, DeclarationFile.collectionRecords, List.dropLast_concat, List.flatMap_map]
      exact List.flatMap_singleton' _
  | nested => exact List.append_nil _

theorem arrange_declarations :
    (table.arrange layout).declarations = KeyedList.values table ++ [table.aggregate] := by
  cases layout with
  | topLevel =>
      rw [arrange, DeclarationFile.declarations, List.flatMap_append, List.flatMap_map]
      exact congrArg (· ++ [table.aggregate]) (List.flatMap_singleton' _)
  | nested => rfl

end RecordTable

namespace Snapshot

variable {snapshot : Snapshot} {names : List String} {table : RecordTable}

theorem Tabulates.mem_keys_iff (tabulated : snapshot.Tabulates snapshot.collections.eraseDups table)
    {collection : String} : collection ∈ table.keys ↔ collection ∈ snapshot.collections := by
  rw [tabulated.keys_eq, List.mem_eraseDups]

theorem Tabulates.map_name (tabulated : snapshot.Tabulates names table) :
    table.values.map Declaration.name = names.map typeName := by
  induction tabulated with
  | nil => rfl
  | cons head _ ih =>
      rw [KeyedList.values, List.map_cons, List.map_cons, List.map_cons, ← KeyedList.values, ih,
        (record_eq_ok_iff.mp head.2).name]

theorem Tabulates.map_name_declarations (tabulated : snapshot.Tabulates names table)
    (layout : Layout) :
    (table.arrange layout).declarations.map Declaration.name =
      names.map typeName ++ ["Schema"] := by
  rw [table.arrange_declarations, List.map_append, tabulated.map_name]
  rfl

end Snapshot

end SnapshotTypes
