import SnapshotTypes.Proofs.Assembly.Translation
import SnapshotTypes.Proofs.TypeName.Spelling
import Mathlib.Data.List.Nodup

/-!
# Clashes between the names of records

A warning is given exactly if two collections have the same type name. The name of the aggregate is
not compared, so that a collection may take it unnoticed.
-/

set_option autoImplicit false

namespace SnapshotTypes

/-- Nothing collides if the names differ from each other and from those that were seen before. -/
theorem collisionsAfter_eq_nil_iff {seen : List (String × String)} {table : RecordTable} :
    collisionsAfter seen table = [] ↔
      (table.values.map Declaration.name).Nodup ∧
        ∀ record ∈ table.values, record.name ∉ KeyedList.keys seen := by
  -- On the entries; an entry's name counts as seen for those after it.
  induction table generalizing seen with
  | nil => simp [collisionsAfter, KeyedList.values]
  | cons entry rest ih =>
      obtain ⟨collection, record⟩ := entry
      have values : KeyedList.values ((collection, record) :: rest) =
          record :: KeyedList.values rest := rfl
      rw [collisionsAfter, values, List.map_cons, List.nodup_cons, List.forall_mem_cons]
      cases found : seen.lookup record.name with
      | none =>
          have fresh := KeyedList.lookup_eq_none_iff.mp found
          have keys : KeyedList.keys ((record.name, collection) :: seen) =
              record.name :: KeyedList.keys seen := rfl
          simp only [ih, keys, List.mem_cons, not_or, List.mem_map, not_exists, not_and, fresh,
            not_false_eq_true, true_and]
          constructor
          · intro given
            obtain ⟨distinct, apart⟩ := given
            exact ⟨⟨fun other listed => (apart other listed).1, distinct⟩,
              fun other listed => (apart other listed).2⟩
          · intro given
            obtain ⟨⟨apart, distinct⟩, unseen⟩ := given
            exact ⟨distinct, fun other listed => ⟨apart other listed, unseen other listed⟩⟩
      | some first =>
          have seenBefore : record.name ∈ KeyedList.keys seen := by
            by_contra fresh
            rw [KeyedList.lookup_eq_none_iff.mpr fresh] at found
            cases found
          simp [seenBefore]

theorem RecordTable.collisions_eq_nil_iff {table : RecordTable} :
    table.collisions = [] ↔ (table.values.map Declaration.name).Nodup := by
  rw [RecordTable.collisions, collisionsAfter_eq_nil_iff]
  simp [KeyedList.keys]

namespace Snapshot

variable {snapshot : Snapshot}

theorem silent_iff {listed : List String} {skipped : List Field}
    {collisions : List NameCollision} :
    (∀ entry ∈ listed.map snapshot.listingEntry ++ skipped.map orphanEntry ++
        collisions.map collisionEntry, entry.level ≠ .warn) ↔ collisions = [] := by
  have listings : ∀ entry ∈ listed.map snapshot.listingEntry, entry.level ≠ .warn := by
    simp [listingEntry]
  have skips : ∀ entry ∈ skipped.map orphanEntry, entry.level ≠ .warn := by
    simp [orphanEntry]
  rw [List.forall_mem_append, List.forall_mem_append]
  constructor
  · intro silent
    cases collisions with
    | nil => rfl
    | cons collision rest =>
        exact absurd rfl (silent.2 (collisionEntry collision) List.mem_cons_self)
  · rintro rfl
    exact ⟨⟨listings, skips⟩, by simp⟩

/-- At the top level all records have names of their own exactly if no warning is given and no
collection has the type name of the aggregate. -/
theorem topLevel_names_nodup_iff {snapshot : Snapshot} {log : List Log.Entry}
    {file : DeclarationFile} (assembled : assemble snapshot .topLevel = (log, .ok file)) :
    (file.declarations.map Declaration.name).Nodup ↔
      (∀ entry ∈ log, entry.level ≠ .warn) ∧
        ∀ collection ∈ snapshot.collections,
          unpadded collection ∉ ["Schema", "schema", "ſchema"] := by
  obtain ⟨table, tabulated, rfl, rfl⟩ := exists_table_of_assemble assembled
  have apart : "Schema" ∉ snapshot.collections.eraseDups.map typeName ↔
      ∀ collection ∈ snapshot.collections,
        unpadded collection ∉ ["Schema", "schema", "ſchema"] := by
    simp only [List.mem_map, List.mem_eraseDups, not_exists, not_and, typeName_eq_schema_iff]
  rw [silent_iff, RecordTable.collisions_eq_nil_iff, tabulated.map_name_declarations,
    List.nodup_append_comm, List.singleton_append, List.nodup_cons, apart, tabulated.map_name,
    and_comm]

/-- The record of `schema` and the aggregate have the same name, and no warning is given. -/
theorem topLevel_names_clash_in_silence :
    let snapshot : Snapshot := ⟨["schema"], []⟩
    ∃ log file, assemble snapshot .topLevel = (log, .ok file) ∧
      (∀ entry ∈ log, entry.level ≠ .warn) ∧
      ¬ (file.declarations.map Declaration.name).Nodup := by
  intro snapshot
  exact ⟨_, _, rfl, by decide, by decide⟩

/-- Names that come close to that of the aggregate. -/
theorem topLevel_names_near_aggregate :
    let snapshot : Snapshot := ⟨["schemas", "sch_ema", "schemas"], []⟩
    ∃ log file, assemble snapshot .topLevel = (log, .ok file) ∧
      (file.declarations.map Declaration.name).Nodup ∧
      (∀ entry ∈ log, entry.level ≠ .warn) ∧
      ∀ collection ∈ snapshot.collections,
        unpadded collection ∉ ["Schema", "schema", "ſchema"] := by
  intro snapshot
  have assembled : assemble snapshot .topLevel = (_, .ok _) := rfl
  have distinct := (topLevel_names_nodup_iff assembled).mp (by decide)
  exact ⟨_, _, assembled, by decide, distinct⟩

end Snapshot

end SnapshotTypes
