import SnapshotTypes.Proofs.Assembly.Translation
import Mathlib.Data.List.Perm.Basic

/-!
# Fields that are declared and fields that are skipped

Every field of a snapshot either becomes one member of one record or is reported as skipped. The
distinct collections share no field, however often they are listed, and the skipped fields are those
of no listed collection.
-/

set_option autoImplicit false

namespace SnapshotTypes

/-!
## Entries about skipped fields
-/

/-- Told by the text, which may hold any name of a collection and of a field. -/
def Log.Entry.reportsSkipped (entry : Log.Entry) : Bool :=
  entry.level = .debug && "skipping field ".toList.isPrefixOf entry.message.toList &&
    ": no such collection".toList.isSuffixOf entry.message.toList

theorem orphanEntry_eq (field : Field) :
    orphanEntry field = ⟨.debug, .assembly,
      "skipping field " ++ field.collection ++ "." ++ field.name ++ ": no such collection"⟩ :=
  rfl

theorem reportsSkipped_orphanEntry (field : Field) :
    (orphanEntry field).reportsSkipped = true := by
  have message : (orphanEntry field).message = "skipping field " ++
      (field.collection ++ "." ++ field.name ++ ": no such collection") := by
    simp only [orphanEntry_eq, String.append_assoc]
  rw [Log.Entry.reportsSkipped, message, String.toList_append, String.toList_append]
  simp only [Bool.and_eq_true, List.isPrefixOf_iff_prefix, List.isSuffixOf_iff_suffix]
  refine ⟨⟨rfl, List.prefix_append _ _⟩, ?_⟩
  exact (List.suffix_append _ _).trans (List.suffix_append _ _)

private theorem getLast?_of_suffix {α : Type} {last values : List α} (nonempty : last ≠ [])
    (ends : last <:+ values) : values.getLast? = last.getLast? := by
  obtain ⟨before, rfl⟩ := ends
  exact List.getLast?_append_of_ne_nil before nonempty

-- A collection may be named like the beginning of such an entry; its own entry ends otherwise.
theorem reportsSkipped_listingEntry (snapshot : Snapshot) (collection : String) :
    (snapshot.listingEntry collection).reportsSkipped = false := by
  have ends : " members)".toList <:+ (snapshot.listingEntry collection).message.toList := by
    rw [Snapshot.listingEntry]
    exact String.toList_append ▸ List.suffix_append _ _
  rw [Bool.eq_false_iff]
  intro reports
  simp only [Log.Entry.reportsSkipped, Bool.and_eq_true, List.isSuffixOf_iff_suffix] at reports
  have first := getLast?_of_suffix (by decide) ends
  rw [getLast?_of_suffix (by decide) reports.2] at first
  exact absurd first (by decide)

theorem reportsSkipped_collisionEntry (collision : NameCollision) :
    (collisionEntry collision).reportsSkipped = false := rfl

/-!
## The two parts
-/

theorem flatMap_fieldsOf_perm {names : List String} (distinct : names.Nodup) (fields : List Field) :
    (names.flatMap fun name => fields.filter fun field => field.collection = name).Perm
      (fields.filter fun field => field.collection ∈ names) := by
  induction names with
  | nil => simp
  | cons name rest ih =>
      obtain ⟨fresh, distinct⟩ := List.nodup_cons.mp distinct
      have own : ∀ field : Field, (decide (field.collection = name) &&
          decide (field.collection ∈ name :: rest)) = decide (field.collection = name) := by
        intro field
        by_cases here : field.collection = name
        · simp [here]
        · simp [here]
      have others : ∀ field : Field, (!decide (field.collection = name) &&
          decide (field.collection ∈ name :: rest)) = decide (field.collection ∈ rest) := by
        intro field
        by_cases here : field.collection = name
        · simp [here, fresh]
        · simp [here]
      -- `name` is not listed again, so that the hypothesis takes all fields but those of `name`.
      have split := List.filter_append_perm (fun field : Field => field.collection = name)
        (fields.filter fun field => field.collection ∈ name :: rest)
      simp only [List.filter_filter, own, others] at split
      rw [List.flatMap_cons]
      exact ((ih distinct).append_left _).trans split

namespace Snapshot

variable {snapshot : Snapshot} {names : List String} {table : RecordTable}

theorem Tabulates.members_become (tabulated : snapshot.Tabulates names table) :
    List.Forall₂ Field.Becomes (names.flatMap snapshot.fieldsOf)
      (table.values.flatMap Declaration.members) := by
  induction tabulated with
  | nil => exact .nil
  | cons head _ ih =>
      rw [KeyedList.values, List.map_cons, List.flatMap_cons, List.flatMap_cons]
      exact List.rel_append (record_eq_ok_iff.mp head.2).members ih

/-- However the fields are grouped, their members are those of the fields of listed collections. -/
theorem Tabulates.exists_members_perm
    (tabulated : snapshot.Tabulates snapshot.collections.eraseDups table) :
    ∃ members,
      List.Forall₂ Field.Becomes
        (snapshot.fields.filter fun field => field.collection ∈ snapshot.collections) members ∧
      (table.values.flatMap Declaration.members).Perm members := by
  have grouped := flatMap_fieldsOf_perm (nodup_eraseDups snapshot.collections) snapshot.fields
  simp only [List.mem_eraseDups] at grouped
  obtain ⟨members, become, same⟩ :=
    List.perm_comp_forall₂ grouped.symm tabulated.members_become
  exact ⟨members, become, same.symm⟩

theorem Tabulates.orphanFields_eq
    (tabulated : snapshot.Tabulates snapshot.collections.eraseDups table) :
    orphanFields snapshot table =
      snapshot.fields.filter fun field => field.collection ∉ snapshot.collections := by
  rw [orphanFields]
  simp only [tabulated.mem_keys_iff]

theorem filter_reportsSkipped (listed : List String) (skipped : List Field)
    (collisions : List NameCollision) :
    (listed.map snapshot.listingEntry ++ skipped.map orphanEntry ++
      collisions.map collisionEntry).filter Log.Entry.reportsSkipped = skipped.map orphanEntry := by
  have listings : (listed.map snapshot.listingEntry).filter Log.Entry.reportsSkipped = [] := by
    simp [reportsSkipped_listingEntry]
  have warnings : (collisions.map collisionEntry).filter Log.Entry.reportsSkipped = [] := by
    simp [reportsSkipped_collisionEntry]
  have kept : (skipped.map orphanEntry).filter Log.Entry.reportsSkipped =
      skipped.map orphanEntry := by
    simp [reportsSkipped_orphanEntry]
  rw [List.filter_append, List.filter_append, listings, warnings, kept, List.nil_append,
    List.append_nil]

/-- The members of the collections' records are those of the fields of listed collections, each
once. The entries about skipped fields name the other fields, one entry each, in their order. -/
theorem members_and_skipped_partition_fields {snapshot : Snapshot} {layout : Layout}
    {log : List Log.Entry} {file : DeclarationFile}
    (assembled : assemble snapshot layout = (log, .ok file)) :
    (∃ members,
        List.Forall₂ Field.Becomes
          (snapshot.fields.filter fun field => field.collection ∈ snapshot.collections) members ∧
        (file.collectionRecords.flatMap Declaration.members).Perm members) ∧
      log.filter Log.Entry.reportsSkipped =
        (snapshot.fields.filter fun field => field.collection ∉ snapshot.collections).map
          (fun field => ⟨.debug, .assembly,
            "skipping field " ++ field.collection ++ "." ++ field.name ++
              ": no such collection"⟩) ∧
      (file.collectionRecords.flatMap Declaration.members).length +
          (log.filter Log.Entry.reportsSkipped).length = snapshot.fields.length := by
  obtain ⟨table, tabulated, rfl, rfl⟩ := exists_table_of_assemble assembled
  obtain ⟨members, become, same⟩ := tabulated.exists_members_perm
  have parts := List.length_eq_length_filter_add (l := snapshot.fields)
    fun field => field.collection ∈ snapshot.collections
  rw [table.arrange_collectionRecords, filter_reportsSkipped, tabulated.orphanFields_eq]
  refine ⟨⟨members, become, same⟩, List.map_congr_left fun field _ => orphanEntry_eq field, ?_⟩
  rw [same.length_eq, ← become.length_eq, List.length_map, parts]
  simp only [decide_not]

/-- Two collections with one type name, one of them listed twice and one named like the text about a
skipped field. Of the fields, two are skipped for their collection, one of them of a type that is
not supported. -/
theorem colliding_collections_partition_fields :
    let collections := ["a_b", "aB", "skipping field x.y: no such collection", "a_b"]
    let mine : Field := ⟨"a_b", "x", .date, some ⟨some true⟩⟩
    let yours : Field := ⟨"aB", "x", .integer, none⟩
    let orphan : Field := ⟨"ghosts", "boo", .binary, none⟩
    let other : Field := ⟨"a_B", "x", .text, none⟩
    let snapshot : Snapshot := ⟨collections, [yours, orphan, mine, other, yours]⟩
    ∃ log file members,
      assemble snapshot .nested = (log, .ok file) ∧
      List.Forall₂ Field.Becomes [yours, mine, yours] members ∧
      (file.collectionRecords.flatMap Declaration.members).Perm members ∧
      log.filter Log.Entry.reportsSkipped =
        [⟨.debug, .assembly, "skipping field ghosts.boo: no such collection"⟩,
          ⟨.debug, .assembly, "skipping field a_B.x: no such collection"⟩] ∧
      (file.collectionRecords.flatMap Declaration.members).length + 2 = 5 := by
  intro collections mine yours orphan other snapshot
  have assembled : assemble snapshot .nested = (_, .ok _) := rfl
  obtain ⟨⟨members, become, same⟩, skipped, total⟩ :=
    members_and_skipped_partition_fields assembled
  rw [skipped] at total
  exact ⟨_, _, members, assembled, become, same, skipped, total⟩

end Snapshot

end SnapshotTypes
