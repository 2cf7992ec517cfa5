import SnapshotTypes.Proofs.Assembly.Clashes
import SnapshotTypes.Proofs.TypeName.SnakeCase

/-!
# Collections named in snake case

Names of this form have type names of their own, so that no two records clash and every reference in
the aggregate can mean one record only.
-/

set_option autoImplicit false

namespace SnapshotTypes

/-- A value whose key is not repeated is found alone. -/
theorem filter_eq_singleton_of_nodup {α κ : Type} [DecidableEq κ] {key : α → κ} {values : List α}
    {value : α} (distinct : (values.map key).Nodup) (listed : value ∈ values) :
    (values.filter fun other => key other = key value) = [value] := by
  induction values with
  | nil => cases listed
  | cons first rest ih =>
      rw [List.map_cons, List.nodup_cons, List.mem_map, not_exists] at distinct
      obtain ⟨fresh, distinct⟩ := distinct
      rcases List.mem_cons.mp listed with rfl | later
      · have nothing : (rest.filter fun other => key other = key value) = [] := by
          rw [List.filter_eq_nil_iff]
          intro other present same
          exact fresh other ⟨present, by simpa using same⟩
        rw [List.filter_cons_of_pos (by simp), nothing]
      · have other : ¬ key first = key value := fun same => fresh value ⟨later, same.symm⟩
        rw [List.filter_cons_of_neg (by simpa using other), ih distinct later]

namespace Snapshot

variable {snapshot : Snapshot} {table : RecordTable}

theorem nodup_map_typeName {names : List String} (distinct : names.Nodup)
    (snakeCase : ∀ name ∈ names, isSnakeCase name = true) : (names.map typeName).Nodup := by
  refine distinct.map_on ?_
  intro first firstListed second secondListed same
  exact typeName_inj_of_isSnakeCase (snakeCase first firstListed)
    (snakeCase second secondListed) same

/-- The record that a member of the aggregate refers to. -/
theorem Tabulates.exists_referenced {names : List String}
    (tabulated : snapshot.Tabulates names table)
    (distinct : (table.values.map Declaration.name).Nodup) {member : Member}
    (listed : member ∈ (aggregateOf names).members) :
    ∃ record, member.ty = .reference record.name ∧
      (table.values.filter fun other => other.name = record.name) = [record] ∧
      snapshot.IsRecordOf member.name record := by
  obtain ⟨collection, known, rfl⟩ := List.mem_map.mp listed
  obtain ⟨record, present, belongs⟩ :=
    exists_of_forall₂_of_mem tabulated.values_isRecordOf.flip known
  refine ⟨record, ?_, filter_eq_singleton_of_nodup distinct present, belongs⟩
  rw [belongs.name]

/-- Type names of names in snake case differ from each other and are identifiers. So no assembly of
collections that are named so gives a warning, and every member of its aggregate refers to exactly
one of the collections' records, the one of its own collection. -/
theorem snakeCase_names_never_clash :
    (∀ first second, isSnakeCase first = true → isSnakeCase second = true →
        typeName first = typeName second → first = second) ∧
      (∀ name, isSnakeCase name = true → isPascalCase (typeName name) = true) ∧
      ∀ (snapshot : Snapshot) (layout : Layout) (log : List Log.Entry) (file : DeclarationFile),
        assemble snapshot layout = (log, .ok file) →
        (∀ collection ∈ snapshot.collections, isSnakeCase collection = true) →
        (∀ entry ∈ log, entry.level ≠ .warn) ∧
          (file.collectionRecords.map Declaration.name).Nodup ∧
          (∀ record ∈ file.collectionRecords, isBareName record.name = true) ∧
          ∃ aggregate, file.items.getLast? = some (.record aggregate) ∧
            aggregate.members.map Member.name = snapshot.collections.eraseDups ∧
            ∀ member ∈ aggregate.members, ∃ record, member.ty = .reference record.name ∧
              (file.collectionRecords.filter fun other => other.name = record.name) = [record] ∧
              snapshot.IsRecordOf member.name record := by
  refine ⟨fun _ _ => typeName_inj_of_isSnakeCase, fun _ => isPascalCase_typeName, ?_⟩
  intro snapshot layout log file assembled snakeCase
  obtain ⟨table, tabulated, rfl, rfl⟩ := exists_table_of_assemble assembled
  have known : ∀ collection ∈ snapshot.collections.eraseDups, isSnakeCase collection = true :=
    fun collection listed => snakeCase collection (List.mem_eraseDups.mp listed)
  have distinct : (table.values.map Declaration.name).Nodup := by
    rw [tabulated.map_name]
    exact nodup_map_typeName (nodup_eraseDups snapshot.collections) known
  rw [table.arrange_collectionRecords]
  refine ⟨silent_iff.mpr (RecordTable.collisions_eq_nil_iff.mpr distinct), distinct, ?_, ?_⟩
  · intro record listed
    obtain ⟨collection, present, belongs⟩ :=
      exists_of_forall₂_of_mem tabulated.values_isRecordOf listed
    rw [belongs.name]
    exact isBareName_of_isPascalCase (isPascalCase_typeName (known collection present))
  · have last : (table.arrange layout).items.getLast? = some (.record table.aggregate) := by
      cases layout <;> simp [RecordTable.arrange]
    refine ⟨table.aggregate, last, ?_, ?_⟩
    · rw [tabulated.aggregate_eq, aggregateOf, List.map_map]
      exact List.map_id _
    · intro member listed
      rw [tabulated.aggregate_eq] at listed
      exact tabulated.exists_referenced distinct listed

/-- Names that differ by the places of their underscores, one of them listed twice, and one whose
type name is that of the aggregate. -/
theorem snakeCase_names_apart_by_underscores :
    let snapshot : Snapshot := ⟨["a_bc", "ab_c", "schema", "a_bc", "user_roles2"],
      [⟨"ab_c", "id", .integer, none⟩]⟩
    isSnakeCase "a_bc" = true ∧ isSnakeCase "ab_c" = true ∧ typeName "a_bc" ≠ typeName "ab_c" ∧
      isPascalCase (typeName "a_bc") = true ∧
      (∀ collection ∈ snapshot.collections, isSnakeCase collection = true) ∧
      ∃ log file, assemble snapshot .topLevel = (log, .ok file) ∧
        (∀ entry ∈ log, entry.level ≠ .warn) ∧
        (file.collectionRecords.map Declaration.name).Nodup := by
  intro snapshot
  have first : isSnakeCase "a_bc" = true := by decide
  have second : isSnakeCase "ab_c" = true := by decide
  have snakeCase : ∀ collection ∈ snapshot.collections, isSnakeCase collection = true := by decide
  have assembled : assemble snapshot .topLevel = (_, .ok _) := rfl
  obtain ⟨injective, pascalCase, never⟩ := snakeCase_names_never_clash
  obtain ⟨silent, distinct, _⟩ := never snapshot .topLevel _ _ assembled snakeCase
  refine ⟨first, second, ?_, pascalCase _ first, snakeCase, _, _, assembled, silent, distinct⟩
  intro same
  exact absurd (injective _ _ first second same) (by decide)

end Snapshot

end SnapshotTypes
