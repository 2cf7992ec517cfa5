import SnapshotTypes.Proofs.Assembly.RecordTable

/-!
# Failing assemblies

When assembling fails, with which type, and what it has reported until then. The layout is not
looked at before the records are complete, so that both layouts fail alike.
-/

set_option autoImplicit false

namespace SnapshotTypes

/-!
## Column types by their text
-/

namespace FieldType

/-- The column types, as written, that have a counterpart in the target language. -/
def convertibleTexts : List String :=
  ["boolean", "date", "dateTime", "time", "timestamp", "decimal", "float", "integer",
    "bigInteger", "hash", "string", "text", "uuid", "unknown", "csv", "json", "alias"]

private theorem keywords_rawText : ∀ entry ∈ keywords, entry.2.rawText = entry.1 := by
  decide

private theorem keywords_unsupported_iff :
    ∀ entry ∈ keywords, entry.2.isUnsupported = true ↔ entry.1 ∉ convertibleTexts := by
  decide

private theorem convertibleTexts_subset_keywords :
    ∀ text ∈ convertibleTexts, text ∈ keywords.map Prod.fst := by
  decide

/-- A text is one of the keywords, or else it is kept in the type. -/
theorem parse_cases (raw : String) :
    (raw, parse raw) ∈ keywords ∨
      (raw ∉ keywords.map Prod.fst ∧ (parse raw = geometry raw ∨ parse raw = other raw)) := by
  unfold parse
  cases found : keywords.lookup raw with
  | some type =>
      obtain ⟨before, after, split, _⟩ := List.lookup_eq_some_iff.mp found
      exact .inl (by rw [split]; simp)
  | none =>
      refine .inr ⟨?_, ?_⟩
      · intro member
        obtain ⟨⟨word, type⟩, entry, rfl⟩ := List.mem_map.mp member
        exact absurd (List.lookup_eq_none_iff.mp found (word, type) entry) (by simp)
      · cases isGeometry raw
        · exact .inr rfl
        · exact .inl rfl

theorem rawText_parse (raw : String) : (parse raw).rawText = raw := by
  rcases parse_cases raw with keyword | ⟨_, kept | kept⟩
  · exact keywords_rawText _ keyword
  · rw [kept, rawText]
  · rw [kept, rawText]

theorem isUnsupported_parse_iff {raw : String} :
    (parse raw).isUnsupported = true ↔ raw ∉ convertibleTexts := by
  rcases parse_cases raw with keyword | ⟨absent, kept⟩
  · exact keywords_unsupported_iff _ keyword
  · have unlisted : raw ∉ convertibleTexts := fun member =>
      absent (convertibleTexts_subset_keywords raw member)
    rcases kept with kept | kept <;> simp [kept, isUnsupported, unlisted]

end FieldType

/-!
## The failure of an assembly
-/

namespace Snapshot

variable {snapshot : Snapshot}

theorem exists_firstUnsupported?_iff {collection : String} :
    (∃ field, snapshot.firstUnsupported? collection = some field) ↔
      ∃ field ∈ snapshot.fields, field.collection = collection ∧
        field.type.isUnsupported = true := by
  simp [← Option.isSome_iff_exists, firstUnsupported?]

theorem assemble_eq_error_iff_addRecords {layout : Layout} {log : List Log.Entry}
    {failure : UnsupportedType} :
    assemble snapshot layout = (log, .error failure) ↔
      snapshot.addRecords snapshot.collections [] = (log, .error failure) := by
  rw [assemble]
  cases snapshot.addRecords snapshot.collections [] with
  | mk reported outcome => cases outcome <;> simp

/-- What a failing assembly gives: the listings before the first collection that has a field of
unsupported type are reported, and the first such field decides the failure. -/
def FailsWith (snapshot : Snapshot) (log : List Log.Entry) (failure : UnsupportedType) : Prop :=
  ∃ before collection after field,
    snapshot.collections = before ++ collection :: after ∧
      (∀ earlier ∈ before, snapshot.firstUnsupported? earlier = none) ∧
      snapshot.firstUnsupported? collection = some field ∧
      failure = ⟨field.type.rawText⟩ ∧ log = before.map snapshot.listingEntry

theorem assemble_eq_error_iff_failsWith {layout : Layout} {log : List Log.Entry}
    {failure : UnsupportedType} :
    assemble snapshot layout = (log, .error failure) ↔ snapshot.FailsWith log failure := by
  rw [assemble_eq_error_iff_addRecords, addRecords_eq_error_iff, FailsWith]
  constructor
  · intro given
    obtain ⟨before, collection, after, split, earlier, failed, reported⟩ := given
    obtain ⟨field, found, rfl⟩ := record_eq_error_iff.mp failed
    exact ⟨before, collection, after, field, split, earlier, found, rfl, reported⟩
  · intro given
    obtain ⟨before, collection, after, field, split, earlier, found, rfl, reported⟩ := given
    exact ⟨before, collection, after, split, earlier,
      record_eq_error_iff.mpr ⟨field, found, rfl⟩, reported⟩

/-- If any listed collection has a field of unsupported type, one of them comes first. -/
theorem exists_failsWith {field : Field} (present : field ∈ snapshot.fields)
    (listed : field.collection ∈ snapshot.collections)
    (unsupported : field.type.isUnsupported = true) :
    ∃ log failure, snapshot.FailsWith log failure := by
  have stops : (snapshot.firstUnsupported? field.collection).isSome = true :=
    Option.isSome_iff_exists.mpr
      (exists_firstUnsupported?_iff.mpr ⟨field, present, rfl, unsupported⟩)
  obtain ⟨collection, found⟩ := Option.isSome_iff_exists.mp
    (List.find?_isSome (p := fun name => (snapshot.firstUnsupported? name).isSome) |>.mpr
      ⟨field.collection, listed, stops⟩)
  obtain ⟨here, before, after, split, earlier⟩ := List.find?_eq_some_iff_append.mp found
  obtain ⟨first, decides⟩ := Option.isSome_iff_exists.mp here
  exact ⟨_, _, before, collection, after, first, split,
    fun name member => by simpa using earlier name member, decides, rfl, rfl⟩

/-- Assembling fails exactly if a field of a listed collection has a type whose text is not
convertible. The failure and the log do not depend on the layout. -/
theorem assemble_fails_at_first_unsupported (snapshot : Snapshot) :
    (∀ raw, (FieldType.parse raw).rawText = raw ∧
        ((FieldType.parse raw).isUnsupported = true ↔ raw ∉ FieldType.convertibleTexts)) ∧
      (∀ layout, (∃ failure, (assemble snapshot layout).2 = .error failure) ↔
        ∃ field ∈ snapshot.fields, field.collection ∈ snapshot.collections ∧
          field.type.isUnsupported = true) ∧
      ∀ layout log failure,
        assemble snapshot layout = (log, .error failure) ↔ snapshot.FailsWith log failure := by
  refine ⟨fun raw => ⟨FieldType.rawText_parse raw, FieldType.isUnsupported_parse_iff⟩, ?_,
    fun layout log failure => assemble_eq_error_iff_failsWith⟩
  intro layout
  constructor
  · intro given
    obtain ⟨failure, failed⟩ := given
    obtain ⟨_, collection, _, _, split, _, found, _⟩ :=
      assemble_eq_error_iff_failsWith.mp (Prod.ext rfl failed)
    obtain ⟨field, present, rfl, unsupported⟩ := exists_firstUnsupported?_iff.mp ⟨_, found⟩
    exact ⟨field, present, by rw [split]; simp, unsupported⟩
  · intro given
    obtain ⟨field, present, listed, unsupported⟩ := given
    obtain ⟨log, failure, fails⟩ := exists_failsWith present listed unsupported
    have failed : assemble snapshot layout = (log, .error failure) :=
      assemble_eq_error_iff_failsWith.mpr fails
    exact ⟨failure, by rw [failed]⟩

end Snapshot

end SnapshotTypes
