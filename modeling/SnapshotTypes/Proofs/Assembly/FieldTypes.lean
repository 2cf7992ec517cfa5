import SnapshotTypes.Proofs.Assembly.Failure
import SnapshotTypes.Proofs.Assembly.Dependence

/-!
# Texts and types of fields

A column type keeps the text it was read from, whether or not it is known. The text comes back in
the failure of a field that has no type. Otherwise the column type decides one type that is no
union, and only a column that may be null adds null to it.
-/

set_option autoImplicit false

namespace SnapshotTypes

namespace FieldType

/-!
## Column types that are read
-/

/-- The texts that stand for one column type each. -/
def wordTexts : List String :=
  "binary" :: convertibleTexts

def IsGeometryText (raw : String) : Prop :=
  raw = "geometry" ∨ ∃ kind, raw = "geometry." ++ kind

/-- Column types that keep no text, or keep one that belongs to the kind they are. -/
def IsCanonical : FieldType → Prop
  | geometry raw => IsGeometryText raw
  | other raw => raw ∉ wordTexts ∧ ¬ IsGeometryText raw
  | _ => True

theorem mem_keywords_iff {raw : String} : raw ∈ keywords.map Prod.fst ↔ raw ∈ wordTexts := by
  have listed : ∀ word ∈ keywords.map Prod.fst, word ∈ wordTexts := by decide
  have known : ∀ word ∈ wordTexts, word ∈ keywords.map Prod.fst := by decide
  exact ⟨listed raw, known raw⟩

theorem isGeometry_iff {raw : String} : isGeometry raw = true ↔ IsGeometryText raw := by
  have kinds : "geometry.".toList <+: raw.toList ↔ ∃ kind, raw = "geometry." ++ kind := by
    constructor
    · intro begins
      obtain ⟨kind, split⟩ := begins
      exact ⟨String.ofList kind, String.toList_inj.mp (by simp [← split])⟩
    · intro given
      obtain ⟨kind, rfl⟩ := given
      exact ⟨kind.toList, String.toList_append.symm⟩
  rw [isGeometry, IsGeometryText, Bool.or_eq_true, beq_iff_eq, List.isPrefixOf_iff_prefix, kinds]

private theorem wordTexts_not_geometry : ∀ word ∈ wordTexts, isGeometry word = false := by
  decide

private theorem keywords_isCanonical : ∀ entry ∈ keywords, entry.2.IsCanonical := by
  simp [keywords, IsCanonical]

/-- A word never names a geometry, so that the order of the tests does not matter. -/
theorem IsGeometryText.not_mem_wordTexts {raw : String} (named : IsGeometryText raw) :
    raw ∉ wordTexts := by
  intro word
  have refused := wordTexts_not_geometry raw word
  rw [isGeometry_iff.mpr named] at refused
  cases refused

theorem parse_of_not_mem_wordTexts {raw : String} (absent : raw ∉ wordTexts) :
    parse raw = if isGeometry raw then geometry raw else other raw := by
  have unlisted : keywords.lookup raw = none := by
    rw [List.lookup_eq_none_iff]
    intro entry listed
    have word := mem_keywords_iff.mp (List.mem_map_of_mem listed)
    simpa using fun same : raw = entry.1 => absent (same ▸ word)
  rw [parse, unlisted]

theorem isCanonical_parse (raw : String) : (parse raw).IsCanonical := by
  rcases parse_cases raw with keyword | ⟨absent, _⟩
  · exact keywords_isCanonical _ keyword
  · have unlisted : raw ∉ wordTexts := absent ∘ mem_keywords_iff.mpr
    rw [parse_of_not_mem_wordTexts unlisted]
    cases named : isGeometry raw with
    | true => exact isGeometry_iff.mp named
    | false => exact ⟨unlisted, fun given => by simp [isGeometry_iff.mpr given] at named⟩

theorem IsCanonical.parse_rawText {type : FieldType} (canonical : type.IsCanonical) :
    parse type.rawText = type := by
  cases type with
  | geometry raw =>
      have named : IsGeometryText raw := canonical
      rw [rawText, parse_of_not_mem_wordTexts named.not_mem_wordTexts,
        if_pos (isGeometry_iff.mpr named)]
  | other raw =>
      obtain ⟨absent, unnamed⟩ := canonical
      rw [rawText, parse_of_not_mem_wordTexts absent, if_neg (unnamed ∘ isGeometry_iff.mp)]
  | _ => decide

theorem parse_rawText_eq_self_iff {type : FieldType} :
    parse type.rawText = type ↔ type.IsCanonical := by
  constructor
  · intro same
    rw [← same]
    exact isCanonical_parse _
  · exact IsCanonical.parse_rawText

/-!
## Types of fields
-/

theorem single_of_ty? {type : FieldType} {base : Ty} (typed : type.ty? = some base)
    (arms : List Ty) : base ≠ .union arms := by
  cases type <;> cases typed <;> exact nofun

end FieldType

theorem Field.ty_of_single {field : Field} {base : Ty} (typed : field.type.ty? = some base)
    (single : ∀ arms, base ≠ .union arms) :
    (field.ty = .ok (.union [base, .null]) ↔ field.isNullable = true) ∧
      (field.ty = .ok base ↔ field.isNullable = false) := by
  have ty : field.ty = .ok (if field.isNullable then base.nullable else base) :=
    Field.ty_eq_ok_iff.mpr ⟨base, typed, rfl⟩
  rw [ty, Except.ok.injEq, Except.ok.injEq]
  -- As a base is no union, neither of the two types can be taken for the other.
  cases field.isNullable with
  | true => simpa [Ty.nullable] using (single [base, .null]).symm
  | false => simpa using single [base, .null]

/-- The text of a column type is there again after it is read, and a column type after its text is
read, unless it keeps a text of another kind. A field has no type exactly if its column type is not
supported; the failure shows the text that was read, whether or not the column may be null. The
type of any other field is one that is no union, with null added exactly if the column may be
null. -/
theorem FieldType.parse_keeps_text :
    (∀ raw, (parse raw).rawText = raw) ∧
      (∀ raw another, parse raw = parse another ↔ raw = another) ∧
      (∀ type : FieldType, parse type.rawText = type ↔ type.IsCanonical) ∧
      (∀ field : Field, ∀ failure, field.ty = .error failure ↔
        field.type.isUnsupported = true ∧ failure = ⟨field.type.rawText⟩) ∧
      (∀ field : Field, ∀ raw failure, field.type = parse raw → field.ty = .error failure →
        failure.raw = raw ∧ failure.message = "unsupported field type: " ++ raw) ∧
      (∀ field : Field, ∀ schema failure, field.ty = .error failure ↔
        Field.ty { field with schema := schema } = .error failure) ∧
      ∀ type : FieldType, type.isUnsupported = false →
        ∃ base, (∀ arms, base ≠ .union arms) ∧ ∀ field : Field, field.type = type →
          (field.ty = .ok (.union [base, .null]) ↔ field.isNullable = true) ∧
            (field.ty = .ok base ↔ field.isNullable = false) := by
  refine ⟨rawText_parse, fun _ _ => parse_inj, fun _ => parse_rawText_eq_self_iff,
    fun _ _ => Field.ty_eq_error_iff, ?_, ?_, ?_⟩
  · intro field raw failure read failed
    obtain ⟨_, rfl⟩ := Field.ty_eq_error_iff.mp failed
    rw [read, rawText_parse]
    exact ⟨rfl, rfl⟩
  · intro field schema failure
    rw [Field.ty_eq_error_iff, Field.ty_eq_error_iff]
  · intro type supported
    obtain ⟨base, typed⟩ : ∃ base, type.ty? = some base := by
      rw [← Option.ne_none_iff_exists', ne_eq, ty?_eq_none_iff, supported]
      exact Bool.false_ne_true
    have single := fun arms => single_of_ty? typed arms
    exact ⟨base, single, fun field same => Field.ty_of_single (same ▸ typed) single⟩

/-- A kind of geometry that may be null, and a time that may be null or not. -/
theorem FieldType.geometry_text_in_failure :
    let point : Field := ⟨"places", "at", parse "geometry.Point", some ⟨some true⟩⟩
    let time : Field := ⟨"places", "seen", parse "timestamp", some ⟨some true⟩⟩
    point.type = parse "geometry.Point" ∧ point.ty = .error ⟨"geometry.Point"⟩ ∧
      UnsupportedType.message ⟨"geometry.Point"⟩ = "unsupported field type: " ++ "geometry.Point" ∧
      Field.ty { point with schema := none } = .error ⟨"geometry.Point"⟩ ∧
      parse (geometry "binary").rawText ≠ geometry "binary" ∧
      timestamp.isUnsupported = false ∧ time.type = timestamp ∧
      ∃ base, time.ty = .ok (.union [base, .null]) ∧
        Field.ty { time with schema := some ⟨none⟩ } = .ok base := by
  intro point time
  obtain ⟨_, _, canonical, _, shown, alike, typed⟩ := parse_keeps_text
  have failed : point.ty = .error ⟨"geometry.Point"⟩ := rfl
  have read : time.type = timestamp := rfl
  have supported : timestamp.isUnsupported = false := rfl
  have unnamed : ¬ IsGeometryText "binary" := by
    rw [← isGeometry_iff]
    decide
  obtain ⟨base, _, told⟩ := typed timestamp supported
  exact ⟨rfl, failed, (shown point "geometry.Point" _ rfl failed).2,
    (alike point none _).mp failed, fun same => unnamed ((canonical _).mp same), supported, read,
    base, (told time read).1.mpr rfl, (told { time with schema := some ⟨none⟩ } read).2.mpr rfl⟩

end SnapshotTypes
