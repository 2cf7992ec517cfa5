import SnapshotTypes.Proofs.Assembly.Failure
import SnapshotTypes.Proofs.Assembly.Translation

/-!
# What an assembly depends on

Two snapshots have the same result if they list the same distinct collections in the same order of
first appearance, and if the fields of each listed collection are alike one by one. Both the
declarations and the failure are decided by this; only the log may differ.
-/

set_option autoImplicit false

namespace SnapshotTypes

/-- Fields that become the same member. How the schema says that null is not admitted plays no
part. -/
structure Field.Alike (field other : Field) : Prop where
  name : field.name = other.name
  type : field.type = other.type
  nullable : field.isNullable = other.isNullable

theorem Field.Alike.refl (field : Field) : field.Alike field := ⟨rfl, rfl, rfl⟩

theorem Field.Alike.member_eq {field other : Field} (alike : field.Alike other) :
    field.member = other.member := by
  rw [Field.member, Field.member, Field.ty, Field.ty, alike.name, alike.type, alike.nullable]

theorem membersOf_congr {fields others : List Field}
    (alike : List.Forall₂ Field.Alike fields others) : membersOf fields = membersOf others := by
  induction alike with
  | nil => rfl
  | cons head _ ih => rw [membersOf, membersOf, head.member_eq, ih]

namespace Snapshot

variable {snapshot other : Snapshot}

def failure? (snapshot : Snapshot) (collection : String) : Option UnsupportedType :=
  match snapshot.record collection with
  | .error failure => some failure
  | .ok _ => none

theorem failure?_eq_some_iff {collection : String} {failure : UnsupportedType} :
    snapshot.failure? collection = some failure ↔ snapshot.record collection = .error failure := by
  unfold failure?
  cases snapshot.record collection <;> simp

theorem failure?_eq_none_iff {collection : String} :
    snapshot.failure? collection = none ↔ snapshot.firstUnsupported? collection = none := by
  rw [firstUnsupported?_eq_none_iff]
  unfold failure?
  cases snapshot.record collection <;> simp

/-- Assembling fails with the failure of the first of the distinct collections that has one. -/
theorem assemble_result_eq_error_iff {layout : Layout} {failure : UnsupportedType} :
    (assemble snapshot layout).2 = .error failure ↔
      snapshot.collections.eraseDups.findSome? snapshot.failure? = some failure := by
  rw [findSome?_eraseDups, List.findSome?_eq_some_iff]
  constructor
  · intro failed
    obtain ⟨before, collection, after, split, earlier, recorded, _⟩ :=
      addRecords_eq_error_iff.mp (assemble_eq_error_iff_addRecords.mp (Prod.ext rfl failed))
    exact ⟨before, collection, after, split, failure?_eq_some_iff.mpr recorded,
      fun name member => failure?_eq_none_iff.mpr (earlier name member)⟩
  · intro given
    obtain ⟨before, collection, after, split, failed, earlier⟩ := given
    have run := @addRecords_eq_error_iff snapshot snapshot.collections [] _ failure |>.mpr
      ⟨before, collection, after, split,
        fun name member => failure?_eq_none_iff.mp (earlier name member),
        failure?_eq_some_iff.mp failed, rfl⟩
    rw [assemble_eq_error_iff_addRecords.mpr run]

theorem record_congr {collection : String}
    (alike : List.Forall₂ Field.Alike (snapshot.fieldsOf collection) (other.fieldsOf collection)) :
    snapshot.record collection = other.record collection := by
  rw [record, record, membersOf_congr alike]

theorem Tabulates.congr {names : List String} {table : RecordTable}
    (records : ∀ name ∈ names, snapshot.record name = other.record name)
    (tabulated : snapshot.Tabulates names table) : other.Tabulates names table := by
  induction tabulated with
  | nil => exact .nil
  | cons head _ ih =>
      obtain ⟨here, later⟩ := List.forall_mem_cons.mp records
      exact .cons ⟨head.1, here ▸ head.2⟩ (ih later)

/-- Snapshots that agree in all that an assembly looks at: the distinct collections in the order of
first appearance, and the fields of each of them. -/
structure AgreesOnListed (snapshot other : Snapshot) : Prop where
  collections : snapshot.collections.eraseDups = other.collections.eraseDups
  fields : ∀ collection ∈ snapshot.collections,
    List.Forall₂ Field.Alike (snapshot.fieldsOf collection) (other.fieldsOf collection)

theorem AgreesOnListed.assemble_eq (agrees : snapshot.AgreesOnListed other) (layout : Layout) :
    (assemble snapshot layout).2 = (assemble other layout).2 := by
  have records : ∀ name ∈ snapshot.collections.eraseDups,
      snapshot.record name = other.record name := fun name listed =>
    record_congr (agrees.fields name (List.mem_eraseDups.mp listed))
  cases result : (assemble snapshot layout).2 with
  | ok file =>
      obtain ⟨table, tabulated, rfl⟩ := assemble_result_eq_ok_iff.mp result
      have again := tabulated.congr records
      rw [agrees.collections] at again
      exact (assemble_result_eq_ok_iff.mpr ⟨table, again, rfl⟩).symm
  | error failure =>
      have failures : snapshot.collections.eraseDups.map snapshot.failure? =
          snapshot.collections.eraseDups.map other.failure? :=
        List.map_congr_left fun name listed => by rw [failure?, failure?, records name listed]
      have found := assemble_result_eq_error_iff.mp result
      rw [← Function.id_comp snapshot.failure?, ← List.findSome?_map, failures, List.findSome?_map,
        Function.id_comp, agrees.collections] at found
      exact (assemble_result_eq_error_iff.mpr found).symm

/-!
## Changes without effect
-/

theorem alike_refl (fields : List Field) : List.Forall₂ Field.Alike fields fields :=
  List.forall₂_same.mpr fun field _ => Field.Alike.refl field

/-- A repeated listing of a collection adds nothing, wherever it stands. -/
theorem agrees_of_repeated {before : List String} {collection : String}
    (listed : collection ∈ before) (after : List String) (fields : List Field) :
    AgreesOnListed ⟨before ++ collection :: after, fields⟩ ⟨before ++ after, fields⟩ := by
  have skipped : (collection :: after).removeAll before = after.removeAll before := by
    simp [List.removeAll, listed]
  refine ⟨?_, fun name _ => alike_refl _⟩
  rw [List.eraseDups_append, List.eraseDups_append, skipped]

/-- Only the fields of listed collections count. -/
theorem agrees_of_listed (collections : List String) (fields : List Field) :
    AgreesOnListed ⟨collections, fields⟩
      ⟨collections, fields.filter fun field => field.collection ∈ collections⟩ := by
  refine ⟨rfl, fun name listed => ?_⟩
  have kept : ∀ field : Field, (decide (field.collection = name) &&
      decide (field.collection ∈ collections)) = decide (field.collection = name) := by
    intro field
    by_cases own : field.collection = name
    · have member : name ∈ collections := listed
      simp [own, member]
    · simp [own]
  simp only [fieldsOf, List.filter_filter, kept]
  exact alike_refl _

/-- Neighbouring fields of different collections may change places. -/
theorem agrees_of_swapped {field next : Field} (apart : field.collection ≠ next.collection)
    (collections : List String) (before after : List Field) :
    AgreesOnListed ⟨collections, before ++ field :: next :: after⟩
      ⟨collections, before ++ next :: field :: after⟩ := by
  refine ⟨rfl, fun name _ => ?_⟩
  have same : (Snapshot.mk collections (before ++ field :: next :: after)).fieldsOf name =
      (Snapshot.mk collections (before ++ next :: field :: after)).fieldsOf name := by
    simp only [fieldsOf, List.filter_append]
    by_cases own : field.collection = name
    · have foreign : next.collection ≠ name := fun same => apart (own.trans same.symm)
      simp [own, foreign]
    · simp [List.filter_cons, own]
  rw [same]
  exact alike_refl _

/-- Every field may be written in any other way that keeps its collection and its member. -/
theorem agrees_of_rewritten {rewritten : Field → Field}
    (kept : ∀ field, (rewritten field).collection = field.collection)
    (alike : ∀ field : Field, field.Alike (rewritten field)) (collections : List String)
    (fields : List Field) :
    AgreesOnListed ⟨collections, fields⟩ ⟨collections, fields.map rewritten⟩ := by
  refine ⟨rfl, fun name _ => ?_⟩
  have same : (fun field => decide (field.collection = name)) ∘ rewritten =
      fun field => decide (field.collection = name) := by
    funext field
    rw [Function.comp_apply, kept]
  rw [fieldsOf, fieldsOf, List.filter_map, same, List.forall₂_map_right_iff]
  exact List.forall₂_same.mpr fun field _ => alike field

end Snapshot

theorem Field.isNullable_eq_false_iff {field : Field} :
    field.isNullable = false ↔
      field.schema = none ∨ field.schema = some ⟨none⟩ ∨ field.schema = some ⟨some false⟩ := by
  unfold Field.isNullable
  cases field.schema with
  | none => simp
  | some schema =>
      obtain ⟨flag⟩ := schema
      cases flag with
      | none => simp
      | some admitted => cases admitted <;> simp

theorem FieldType.parse_inj {text other : String} :
    parse text = parse other ↔ text = other := by
  constructor
  · intro same
    rw [← rawText_parse text, same, rawText_parse]
  · intro same
    rw [same]

/-- The result of an assembly is decided by the distinct collections and the fields of each.
Listings may be repeated, fields of other collections added, changed or removed, fields of different
collections interleaved in any order, and the absence of null written in any way. -/
theorem Snapshot.assemble_depends_on_listed_fields (layout : Layout) :
    (∀ snapshot other : Snapshot, snapshot.AgreesOnListed other →
      (assemble snapshot layout).2 = (assemble other layout).2) ∧
    (∀ text other, FieldType.parse text = FieldType.parse other ↔ text = other) ∧
    (∀ before collection after fields, collection ∈ before →
      (assemble ⟨before ++ collection :: after, fields⟩ layout).2 =
        (assemble ⟨before ++ after, fields⟩ layout).2) ∧
    (∀ collections fields, (assemble ⟨collections, fields⟩ layout).2 =
      (assemble ⟨collections, fields.filter fun field => field.collection ∈ collections⟩
        layout).2) ∧
    (∀ collections before after, ∀ field next : Field, field.collection ≠ next.collection →
      (assemble ⟨collections, before ++ field :: next :: after⟩ layout).2 =
        (assemble ⟨collections, before ++ next :: field :: after⟩ layout).2) ∧
    (∀ collections fields, ∀ rewritten : Field → Field,
      (∀ field, (rewritten field).collection = field.collection) →
      (∀ field : Field, field.Alike (rewritten field)) →
      (assemble ⟨collections, fields⟩ layout).2 =
        (assemble ⟨collections, fields.map rewritten⟩ layout).2) ∧
    ∀ field : Field, field.isNullable = false ↔
      field.schema = none ∨ field.schema = some ⟨none⟩ ∨ field.schema = some ⟨some false⟩ := by
  refine ⟨?_, ?_, ?_, ?_, ?_, ?_, ?_⟩
  · exact fun _ _ agrees => agrees.assemble_eq layout
  · exact fun _ _ => FieldType.parse_inj
  · exact fun _ _ after fields listed => (agrees_of_repeated listed after fields).assemble_eq layout
  · exact fun collections fields => (agrees_of_listed collections fields).assemble_eq layout
  · exact fun collections before after _ _ apart =>
      (agrees_of_swapped apart collections before after).assemble_eq layout
  · exact fun collections fields _ kept alike =>
      (agrees_of_rewritten kept alike collections fields).assemble_eq layout
  · exact fun _ => Field.isNullable_eq_false_iff

/-- Two snapshots that fail with the same type, although an earlier field of the first has another
type that is not supported. The first may be changed in each of the ways. -/
theorem Snapshot.assemble_failure_of_listed_field :
    let ghost : Field := ⟨"ghosts", "boo", .binary, none⟩
    let number : Field := ⟨"posts", "id", .integer, none⟩
    let later : List Field := [⟨"places", "at", .geometry "geometry.Point", some ⟨none⟩⟩,
      ⟨"posts", "title", .string, some ⟨some false⟩⟩]
    let snapshot : Snapshot := ⟨["posts", "places"] ++ ["posts"], [] ++ ghost :: number :: later⟩
    let other : Snapshot := ⟨["posts", "posts", "places"],
      [⟨"places", "at", .geometry "geometry.Point", none⟩,
        ⟨"posts", "id", .integer, some ⟨some false⟩⟩, ⟨"posts", "title", .string, some ⟨none⟩⟩]⟩
    let spelled : Field → Field := fun field =>
      ⟨field.collection, field.name, field.type, some ⟨some field.isNullable⟩⟩
    snapshot.AgreesOnListed other ∧ (assemble snapshot .nested).2 = (assemble other .nested).2 ∧
      (assemble other .nested).2 = .error ⟨"geometry.Point"⟩ ∧
      "posts" ∈ ["posts", "places"] ∧
      (assemble snapshot .nested).2 =
        (assemble ⟨["posts", "places"] ++ [], snapshot.fields⟩ .nested).2 ∧
      ghost.collection ≠ number.collection ∧
      (assemble snapshot .nested).2 =
        (assemble ⟨snapshot.collections, [] ++ number :: ghost :: later⟩ .nested).2 ∧
      (∀ field, (spelled field).collection = field.collection) ∧
      (∀ field : Field, field.Alike (spelled field)) ∧
      (assemble snapshot .nested).2 =
        (assemble ⟨snapshot.collections, snapshot.fields.map spelled⟩ .nested).2 := by
  intro ghost number later snapshot other spelled
  have agrees : snapshot.AgreesOnListed other := by
    refine ⟨by decide, ?_⟩
    have posts : List.Forall₂ Field.Alike (snapshot.fieldsOf "posts") (other.fieldsOf "posts") :=
      .cons ⟨rfl, rfl, rfl⟩ (.cons ⟨rfl, rfl, rfl⟩ .nil)
    have places : List.Forall₂ Field.Alike (snapshot.fieldsOf "places") (other.fieldsOf "places") :=
      .cons ⟨rfl, rfl, rfl⟩ .nil
    exact List.forall_mem_cons.mpr ⟨posts, List.forall_mem_cons.mpr ⟨places,
      List.forall_mem_singleton.mpr posts⟩⟩
  have listed : "posts" ∈ ["posts", "places"] := by decide
  have apart : ghost.collection ≠ number.collection := by decide
  have kept : ∀ field, (spelled field).collection = field.collection := fun _ => rfl
  have same : ∀ field : Field, field.Alike (spelled field) := fun _ => ⟨rfl, rfl, rfl⟩
  obtain ⟨alike, _, repeated, _, swapped, rewritten, _⟩ := assemble_depends_on_listed_fields .nested
  exact ⟨agrees, alike snapshot other agrees, rfl, listed,
    repeated ["posts", "places"] "posts" [] snapshot.fields listed, apart,
    swapped snapshot.collections [] later ghost number apart, kept, same,
    rewritten snapshot.collections snapshot.fields spelled kept same⟩

end SnapshotTypes
