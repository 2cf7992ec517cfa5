import SnapshotTypes.Assembly
import SnapshotTypes.KeyedList
import Mathlib.Data.List.Induction
import Mathlib.Data.List.Forall2

/-!
# Record tables

What a field, a record and a run over the listed collections give. A table holds one record for each
distinct collection, in the order of first appearance; a failing run is described apart from any
table, since nothing of the table survives it.
-/

set_option autoImplicit false

namespace SnapshotTypes

/-!
## Distinct values in the order of first appearance

A further value is added at the end, unless it was there before.
-/

section Distinct

variable {α β : Type} [BEq α] [LawfulBEq α] {values : List α} {value : α}

theorem eraseDups_concat_of_mem (seen : value ∈ values) :
    (values ++ [value]).eraseDups = values.eraseDups := by
  have nothingNew : [value].removeAll values = [] := by
    simp [List.removeAll, seen]
  rw [List.eraseDups_append, nothingNew, List.eraseDups_nil, List.append_nil]

theorem eraseDups_concat_of_not_mem (fresh : value ∉ values) :
    (values ++ [value]).eraseDups = values.eraseDups ++ [value] := by
  have new : [value].removeAll values = [value] := by
    simp [List.removeAll, fresh]
  rw [List.eraseDups_append, new]
  rfl

theorem nodup_eraseDups (values : List α) : values.eraseDups.Nodup := by
  induction values using List.reverseRecOn with
  | nil => exact .nil
  | append_singleton values value ih =>
      by_cases seen : value ∈ values
      · rw [eraseDups_concat_of_mem seen]
        exact ih
      · rw [eraseDups_concat_of_not_mem seen]
        refine List.nodup_append.mpr ⟨ih, by simp, ?_⟩
        intro earlier member last only same
        rw [List.mem_singleton.mp only] at same
        exact seen (same ▸ List.mem_eraseDups.mp member)

/-- What a search finds at a later appearance it would have found at the first. -/
theorem findSome?_eraseDups (search : α → Option β) (values : List α) :
    values.eraseDups.findSome? search = values.findSome? search := by
  induction values using List.reverseRecOn with
  | nil => rfl
  | append_singleton values value ih =>
      rw [List.findSome?_append, ← ih]
      by_cases seen : value ∈ values
      · rw [eraseDups_concat_of_mem seen]
        cases found : values.eraseDups.findSome? search with
        | none =>
            have nothing := List.findSome?_eq_none_iff.mp found value (List.mem_eraseDups.mpr seen)
            simp [nothing]
        | some result => rfl
      · rw [eraseDups_concat_of_not_mem seen, List.findSome?_append]

end Distinct

/-!
## Members and records
-/

def FieldType.isUnsupported : FieldType → Bool
  | geometry _ | binary | other _ => true
  | _ => false

/-- The member that a field becomes keeps its name and takes its type. -/
def Field.Becomes (field : Field) (member : Member) : Prop :=
  member.name = field.name ∧ field.ty = .ok member.ty

theorem FieldType.ty?_eq_none_iff {type : FieldType} :
    type.ty? = none ↔ type.isUnsupported = true := by
  cases type <;> simp [ty?, isUnsupported]

theorem Field.ty_eq_error_iff {field : Field} {failure : UnsupportedType} :
    field.ty = .error failure ↔
      field.type.isUnsupported = true ∧ failure = ⟨field.type.rawText⟩ := by
  rw [← FieldType.ty?_eq_none_iff, Field.ty]
  cases field.type.ty? with
  | none => simp [eq_comm]
  | some base => simp

theorem Field.ty_eq_ok_iff {field : Field} {ty : Ty} :
    field.ty = .ok ty ↔
      ∃ base, field.type.ty? = some base ∧
        ty = if field.isNullable then base.nullable else base := by
  rw [Field.ty]
  cases field.type.ty? with
  | none => simp
  | some base =>
      constructor
      · intro given
        exact ⟨base, rfl, (Except.ok.inj given).symm⟩
      · rintro ⟨_, ⟨⟩, rfl⟩
        rfl

theorem Field.member_eq_ok_iff {field : Field} {member : Member} :
    field.member = .ok member ↔ field.Becomes member := by
  obtain ⟨name, type⟩ := member
  unfold Field.member Field.Becomes
  cases field.ty with
  | error failure => simp
  | ok ty => simp [eq_comm]

theorem Field.member_eq_error_iff {field : Field} {failure : UnsupportedType} :
    field.member = .error failure ↔
      field.type.isUnsupported = true ∧ failure = ⟨field.type.rawText⟩ := by
  rw [← Field.ty_eq_error_iff, Field.member]
  cases field.ty <;> simp

theorem Field.Becomes.supported {field : Field} {member : Member} (becomes : field.Becomes member) :
    field.type.isUnsupported = false := by
  cases supported : field.type.isUnsupported with
  | false => rfl
  | true =>
      have failed := Field.member_eq_error_iff.mpr ⟨supported, rfl⟩
      rw [Field.member_eq_ok_iff.mpr becomes] at failed
      cases failed

theorem membersOf_eq_ok_iff {fields : List Field} {members : List Member} :
    membersOf fields = .ok members ↔ List.Forall₂ Field.Becomes fields members := by
  induction fields generalizing members with
  | nil => simp [membersOf, eq_comm]
  | cons field rest ih =>
      rw [membersOf, List.forall₂_cons_left_iff]
      cases result : field.member with
      | error failure =>
          have rejected : ∀ member, ¬ field.Becomes member := fun member becomes => by
            rw [Field.member_eq_ok_iff.mpr becomes] at result
            cases result
          simp [rejected]
      | ok member =>
          have only : ∀ other, field.Becomes other ↔ other = member := fun other => by
            rw [← Field.member_eq_ok_iff, result, Except.ok.injEq, eq_comm]
          cases others : membersOf rest with
          | error failure => simp [← ih, others]
          | ok later => simp [← ih, others, only, eq_comm]

/-- The first field without a type decides the failure. -/
theorem membersOf_eq_error_iff {fields : List Field} {failure : UnsupportedType} :
    membersOf fields = .error failure ↔
      ∃ field, fields.find? (·.type.isUnsupported) = some field ∧
        failure = ⟨field.type.rawText⟩ := by
  induction fields with
  | nil => simp [membersOf]
  | cons field rest ih =>
      rw [membersOf]
      cases result : field.member with
      | error first =>
          obtain ⟨unsupported, rfl⟩ := Field.member_eq_error_iff.mp result
          simp [unsupported, eq_comm]
      | ok member =>
          have supported := (Field.member_eq_ok_iff.mp result).supported
          rw [List.find?_cons_of_neg (by simp [supported]), ← ih]
          cases membersOf rest <;> simp

/-- The record of a collection has one member for each of its fields, in the order of the snapshot.
-/
structure Snapshot.IsRecordOf (snapshot : Snapshot) (collection : String) (record : Declaration) :
    Prop where
  name : record.name = typeName collection
  members : List.Forall₂ Field.Becomes
    (snapshot.fields.filter fun field => field.collection = collection) record.members

theorem exists_of_forall₂_of_mem {α β : Type} {related : α → β → Prop} {first : List α}
    {second : List β} (pairs : List.Forall₂ related first second) {value : β}
    (member : value ∈ second) : ∃ source ∈ first, related source value := by
  induction pairs with
  | nil => cases member
  | cons head _ ih =>
      rcases List.mem_cons.mp member with rfl | later
      · exact ⟨_, List.mem_cons_self, head⟩
      · obtain ⟨source, present, belongs⟩ := ih later
        exact ⟨source, List.mem_cons_of_mem _ present, belongs⟩

theorem Snapshot.IsRecordOf.exists_field {snapshot : Snapshot} {collection : String}
    {record : Declaration} (belongs : snapshot.IsRecordOf collection record) {member : Member}
    (present : member ∈ record.members) : ∃ field ∈ snapshot.fields, field.Becomes member := by
  obtain ⟨field, kept, becomes⟩ := exists_of_forall₂_of_mem belongs.members present
  exact ⟨field, List.mem_of_mem_filter kept, becomes⟩

/-- The first field of a collection, in the order of the snapshot, whose type is not supported. -/
def Snapshot.firstUnsupported? (snapshot : Snapshot) (collection : String) : Option Field :=
  snapshot.fields.find? fun field => field.collection = collection && field.type.isUnsupported

/-- What is reported for a listing: the type name and the number of fields of the collection. -/
def Snapshot.listingEntry (snapshot : Snapshot) (collection : String) : Log.Entry :=
  let fields := snapshot.fields.filter fun field => field.collection = collection
  ⟨.debug, .assembly, s!"{collection} → {typeName collection} ({fields.length} members)"⟩

namespace Snapshot

variable {snapshot : Snapshot}

theorem record_eq_ok_iff {collection : String} {record : Declaration} :
    snapshot.record collection = .ok record ↔ snapshot.IsRecordOf collection record := by
  obtain ⟨name, members⟩ := record
  have read : membersOf (snapshot.fieldsOf collection) = .ok members ↔
      List.Forall₂ Field.Becomes (snapshot.fieldsOf collection) members := membersOf_eq_ok_iff
  rw [Snapshot.record]
  constructor
  · intro recorded
    cases result : membersOf (snapshot.fieldsOf collection) with
    | error failure => simp [result] at recorded
    | ok others =>
        simp only [result, Except.ok.injEq, Declaration.mk.injEq] at recorded
        obtain ⟨rfl, rfl⟩ := recorded
        exact ⟨rfl, read.mp result⟩
  · intro given
    obtain ⟨rfl, becomes⟩ := given
    rw [read.mpr becomes]

theorem record_eq_error_iff {collection : String} {failure : UnsupportedType} :
    snapshot.record collection = .error failure ↔
      ∃ field, snapshot.firstUnsupported? collection = some field ∧
        failure = ⟨field.type.rawText⟩ := by
  have found : snapshot.firstUnsupported? collection =
      (snapshot.fieldsOf collection).find? (·.type.isUnsupported) := by
    simp [firstUnsupported?, fieldsOf, List.find?_filter]
  rw [found, ← membersOf_eq_error_iff, Snapshot.record]
  cases membersOf (snapshot.fieldsOf collection) <;> simp

theorem firstUnsupported?_eq_none_iff {collection : String} :
    snapshot.firstUnsupported? collection = none ↔
      ∃ record, snapshot.record collection = .ok record := by
  cases result : snapshot.record collection with
  | error failure =>
      obtain ⟨field, found, _⟩ := record_eq_error_iff.mp result
      simp [found]
  | ok record =>
      cases found : snapshot.firstUnsupported? collection with
      | none => simp
      | some field =>
          have failed := record_eq_error_iff.mpr ⟨field, found, rfl⟩
          rw [result] at failed
          cases failed

theorem recordEntry_eq_listingEntry {collection : String} {record : Declaration}
    (recorded : snapshot.record collection = .ok record) :
    recordEntry collection record = snapshot.listingEntry collection := by
  obtain ⟨named, becomes⟩ := record_eq_ok_iff.mp recorded
  rw [recordEntry, listingEntry, named, becomes.length_eq]

/-!
## The run over the listed collections
-/

/-- The table that has the records of the given collections, in the given order. -/
def Tabulates (snapshot : Snapshot) (names : List String) (table : RecordTable) : Prop :=
  List.Forall₂ (fun name entry => entry.1 = name ∧ snapshot.record name = .ok entry.2) names table

namespace Tabulates

variable {names : List String} {table : RecordTable}

theorem keys_eq (tabulated : snapshot.Tabulates names table) : table.keys = names := by
  induction tabulated with
  | nil => rfl
  | cons head _ ih =>
      obtain ⟨rfl, _⟩ := head
      rw [KeyedList.keys, List.map_cons, ← KeyedList.keys, ih]

theorem recorded (tabulated : snapshot.Tabulates names table) {name : String}
    {record : Declaration} (member : (name, record) ∈ table) :
    snapshot.record name = .ok record := by
  induction tabulated with
  | nil => cases member
  | cons head _ ih =>
      obtain ⟨rfl, stored⟩ := head
      rcases List.mem_cons.mp member with rfl | later
      · exact stored
      · exact ih later

theorem lookup (tabulated : snapshot.Tabulates names table) {name : String}
    {record : Declaration} (listed : name ∈ names) (recorded : snapshot.record name = .ok record) :
    List.lookup name table = some record := by
  induction tabulated with
  | nil => cases listed
  | @cons first entry _ _ head _ ih =>
      obtain ⟨key, stored⟩ := entry
      obtain ⟨rfl, own⟩ := head
      by_cases here : name = key
      · subst here
        rw [recorded, Except.ok.injEq] at own
        simp [own]
      · rw [KeyedList.lookup_cons_of_ne here]
        exact ih ((List.mem_cons.mp listed).resolve_left here)

/-- Each listed name has one record only, so that its table is determined. -/
theorem unique (tabulated : snapshot.Tabulates names table) {other : RecordTable}
    (again : snapshot.Tabulates names other) : table = other := by
  induction tabulated generalizing other with
  | nil => cases again; rfl
  | cons head _ ih =>
      cases again with
      | @cons _ second _ _ headAgain tailAgain =>
          obtain ⟨rfl, stored⟩ := head
          obtain ⟨key, storedAgain⟩ := headAgain
          rw [stored, Except.ok.injEq] at storedAgain
          rw [ih tailAgain, Prod.ext key.symm storedAgain]

/-- One more listing: a new name is added at the end, and a name that was seen keeps its place. The
record that is computed again is the one that is there. -/
theorem insert {seen : List String} {collection : String} {record : Declaration}
    (tabulated : snapshot.Tabulates seen.eraseDups table)
    (recorded : snapshot.record collection = .ok record) :
    snapshot.Tabulates (seen ++ [collection]).eraseDups
      (KeyedList.insert collection record table) := by
  by_cases present : collection ∈ seen
  · have stored := tabulated.lookup (List.mem_eraseDups.mpr present) recorded
    rw [eraseDups_concat_of_mem present, KeyedList.insert_of_lookup stored]
    exact tabulated
  · have fresh : collection ∉ table.keys := by
      rw [tabulated.keys_eq, List.mem_eraseDups]
      exact present
    rw [eraseDups_concat_of_not_mem present, KeyedList.insert_of_not_mem fresh]
    exact List.rel_append tabulated (.cons ⟨rfl, recorded⟩ .nil)

end Tabulates

theorem addRecords_cons_of_error {collection : String} {failure : UnsupportedType}
    (failed : snapshot.record collection = .error failure) (rest : List String)
    (table : RecordTable) :
    snapshot.addRecords (collection :: rest) table = ([], .error failure) := by
  rw [addRecords, failed]

theorem addRecords_cons_of_ok {collection : String} {record : Declaration}
    (recorded : snapshot.record collection = .ok record) (rest : List String)
    (table : RecordTable) :
    snapshot.addRecords (collection :: rest) table =
      (snapshot.listingEntry collection ::
          (snapshot.addRecords rest (KeyedList.insert collection record table)).1,
        (snapshot.addRecords rest (KeyedList.insert collection record table)).2) := by
  rw [addRecords, recorded, ← recordEntry_eq_listingEntry recorded]

/-- A run succeeds exactly with the table of all names seen so far, and has reported every
listing. -/
theorem addRecords_eq_ok_iff {seen listed : List String} {table result : RecordTable}
    {log : List Log.Entry} (tabulated : snapshot.Tabulates seen.eraseDups table) :
    snapshot.addRecords listed table = (log, .ok result) ↔
      log = listed.map snapshot.listingEntry ∧
        snapshot.Tabulates (seen ++ listed).eraseDups result := by
  induction listed generalizing seen table log with
  | nil =>
      have only : snapshot.Tabulates seen.eraseDups result ↔ table = result :=
        ⟨tabulated.unique, fun same => same ▸ tabulated⟩
      simp [addRecords, only, eq_comm]
  | cons collection rest ih =>
      cases recorded : snapshot.record collection with
      | error failure =>
          -- A table of all names would hold a record for this one too.
          have impossible : ¬ snapshot.Tabulates (seen ++ collection :: rest).eraseDups result := by
            intro complete
            have member : collection ∈ result.keys := by
              rw [complete.keys_eq, List.mem_eraseDups]
              simp
            obtain ⟨⟨name, record⟩, stored, rfl⟩ := List.mem_map.mp member
            rw [complete.recorded stored] at recorded
            cases recorded
          simp [addRecords_cons_of_error recorded, impossible]
      | ok record =>
          have later := @ih _ _ log.tail (tabulated.insert recorded)
          rw [List.append_assoc, List.singleton_append, Prod.ext_iff] at later
          rw [addRecords_cons_of_ok recorded, Prod.mk.injEq, List.map_cons]
          constructor
          · intro given
            obtain ⟨rfl, finished⟩ := given
            obtain ⟨reported, complete⟩ := later.mp ⟨rfl, finished⟩
            exact ⟨by rw [← reported, List.tail_cons], complete⟩
          · intro given
            obtain ⟨rfl, complete⟩ := given
            obtain ⟨reported, finished⟩ := later.mpr ⟨rfl, complete⟩
            exact ⟨by rw [reported, List.tail_cons], finished⟩

/-- A run fails exactly at the first listing whose record fails, and has reported the listings
before it. The table that was built until then plays no part. -/
theorem addRecords_eq_error_iff {listed : List String} {table : RecordTable}
    {log : List Log.Entry} {failure : UnsupportedType} :
    snapshot.addRecords listed table = (log, .error failure) ↔
      ∃ before collection after, listed = before ++ collection :: after ∧
        (∀ earlier ∈ before, snapshot.firstUnsupported? earlier = none) ∧
        snapshot.record collection = .error failure ∧
        log = before.map snapshot.listingEntry := by
  induction listed generalizing table log with
  | nil => simp [addRecords]
  | cons collection rest ih =>
      cases recorded : snapshot.record collection with
      | error first =>
          rw [addRecords_cons_of_error recorded, Prod.mk.injEq, Except.error.injEq]
          constructor
          · intro given
            obtain ⟨rfl, rfl⟩ := given
            exact ⟨[], collection, rest, rfl, by simp, recorded, rfl⟩
          · intro given
            obtain ⟨before, other, after, split, earlier, failed, rfl⟩ := given
            cases before with
            | nil =>
                obtain ⟨rfl, rfl⟩ := List.cons.inj split
                rw [recorded, Except.error.injEq] at failed
                exact ⟨rfl, failed⟩
            | cons head tail =>
                obtain ⟨rfl, _⟩ := List.cons.inj split
                obtain ⟨record, again⟩ :=
                  firstUnsupported?_eq_none_iff.mp (earlier collection List.mem_cons_self)
                rw [again] at recorded
                cases recorded
      | ok record =>
          have later := @ih (KeyedList.insert collection record table) log.tail
          rw [Prod.ext_iff] at later
          rw [addRecords_cons_of_ok recorded, Prod.mk.injEq]
          constructor
          · intro given
            obtain ⟨rfl, failed⟩ := given
            obtain ⟨before, other, after, rfl, earlier, failed, reported⟩ := later.mp ⟨rfl, failed⟩
            refine ⟨collection :: before, other, after, rfl, ?_, failed, ?_⟩
            · have clean := firstUnsupported?_eq_none_iff.mpr ⟨record, recorded⟩
              exact List.forall_mem_cons.mpr ⟨clean, earlier⟩
            · rw [List.map_cons, ← reported, List.tail_cons]
          · intro given
            obtain ⟨before, other, after, split, earlier, failed, rfl⟩ := given
            cases before with
            | nil =>
                obtain ⟨rfl, _⟩ := List.cons.inj split
                rw [recorded] at failed
                cases failed
            | cons head tail =>
                obtain ⟨rfl, rfl⟩ := List.cons.inj split
                obtain ⟨reported, failed⟩ := later.mpr
                  ⟨tail, other, after, rfl, (List.forall_mem_cons.mp earlier).2, failed, rfl⟩
                exact ⟨by rw [reported, List.map_cons, List.tail_cons], failed⟩

end Snapshot

end SnapshotTypes
