import SnapshotTypes.Json.Reading
import SnapshotTypes.Proofs.Emission.Tokens
import SnapshotTypes.Proofs.TypeName.Characters

/-!
# Names of properties

The name of a property can be read off what is emitted for it. An identifier stands for itself, and
any other name is a JSON string. Whatever text follows the colon, the name and that text are told
apart from it.
-/

set_option autoImplicit false

namespace SnapshotTypes

def IsIdentifierStart (c : Char) : Prop :=
  'A' ≤ c ∧ c ≤ 'Z' ∨ 'a' ≤ c ∧ c ≤ 'z' ∨ c = '_' ∨ c = '$'

/-- The identifiers that are written in ASCII. -/
def IsAsciiIdentifier (name : String) : Prop :=
  ∃ first rest, name.toList = first :: rest ∧ IsIdentifierStart first ∧
    ∀ c ∈ rest, IsIdentifierStart c ∨ '0' ≤ c ∧ c ≤ '9'

theorem isNameStart_iff {c : Char} : isNameStart c = true ↔ IsIdentifierStart c := by
  have letter : c.isAlpha = (c.isUpper || c.isLower) := rfl
  simp only [isNameStart, IsIdentifierStart, letter, Bool.or_eq_true, beq_iff_eq,
    Text.isUpper_iff, Text.isLower_iff, or_assoc]
  exact Iff.rfl

theorem isNameRest_iff {c : Char} :
    isNameRest c = true ↔ IsIdentifierStart c ∨ '0' ≤ c ∧ c ≤ '9' := by
  have split : isNameRest c = true ↔ isNameStart c = true ∨ c.isDigit = true := by
    simp only [isNameRest, isNameStart, Char.isAlphanum, Bool.or_eq_true]
    grind
  rw [split, isNameStart_iff, Text.isDigit_iff]
  exact Iff.rfl

theorem isBareName_iff_isAsciiIdentifier {name : String} :
    isBareName name = true ↔ IsAsciiIdentifier name := by
  simp only [isBareName_iff, isNameStart_iff, isNameRest_iff, IsAsciiIdentifier]

theorem propertyName_eq_self_iff {name : String} :
    propertyName name = name ↔ IsAsciiIdentifier name := by
  rw [← isBareName_iff_isAsciiIdentifier, propertyName]
  cases isBareName name with
  | true => simp
  | false => simpa using Text.quoted_ne name

theorem propertyName_eq_quoted {name : String} (other : ¬ IsAsciiIdentifier name) :
    propertyName name = Text.quoted name := by
  rw [← isBareName_iff_isAsciiIdentifier] at other
  exact if_neg other

theorem readText_quoted (name : String) :
    Json.readText (Text.quoted name).toList = .ok (name, []) := by
  have read := Json.readString_escaped name []
  rw [Text.quoted_toList]
  exact read

/-- The colon after a name ends it, whatever stands before and after the colon. -/
theorem propertyName_colon_eq_iff {first second rest other : String} :
    propertyName first ++ ":" ++ rest = propertyName second ++ ":" ++ other ↔
      first = second ∧ rest = other := by
  constructor
  · intro same
    have texts := congrArg String.toList same
    simp only [String.toList_append] at texts
    obtain ⟨names, later⟩ := propertyName_selfDelimiting trivial trivial texts
    exact ⟨names, String.toList_inj.mp later⟩
  · intro given
    obtain ⟨rfl, rfl⟩ := given
    rfl

/-- Names are emitted so that they can be read back: identifiers as they are, and all other names as
strings that the JSON reader takes to the last character. No name brings in a control character, and
a name shows its own end. -/
theorem propertyName_reversible :
    (∀ name, propertyName name = name ↔ IsAsciiIdentifier name) ∧
      (∀ name, ¬ IsAsciiIdentifier name →
        (∃ body, (propertyName name).toList = '"' :: (body ++ ['"'])) ∧
          Json.readText (propertyName name).toList = .ok (name, [])) ∧
      (∀ name, ∀ c ∈ (propertyName name).toList, 0x20 ≤ c.toNat) ∧
      ∀ first second rest other : String,
        propertyName first ++ ":" ++ rest = propertyName second ++ ":" ++ other ↔
          first = second ∧ rest = other := by
  refine ⟨fun _ => propertyName_eq_self_iff, ?_, propertyName_no_control,
    fun _ _ _ _ => propertyName_colon_eq_iff⟩
  intro name other
  rw [propertyName_eq_quoted other]
  exact ⟨⟨_, Text.quoted_toList name⟩, readText_quoted name⟩

/-- A name that looks like the end of a string, a colon and a type. -/
theorem propertyName_reads_back_name_like_member :
    let name := "a\": \\\n\x00;"
    ¬ IsAsciiIdentifier name ∧
      propertyName name = "\"a\\\": \\\\\\n\\u0000;\"" ∧
      Json.readText (propertyName name).toList = .ok (name, []) ∧
      '0' ∈ (propertyName name).toList ∧ 0x20 ≤ '0'.toNat ∧
      propertyName name ++ ":" ++ " string;" ≠ propertyName "a" ++ ":" ++ " \\\\n: string;" := by
  intro name
  obtain ⟨bare, read, visible, apart⟩ := propertyName_reversible
  have quoted : propertyName name = "\"a\\\": \\\\\\n\\u0000;\"" := by decide
  have other : ¬ IsAsciiIdentifier name := by
    rw [← bare name, quoted]
    decide
  have zero : '0' ∈ (propertyName name).toList := by
    rw [quoted]
    decide
  refine ⟨other, quoted, (read name other).2, zero, visible name '0' zero, ?_⟩
  intro same
  exact absurd ((apart name "a" _ _).mp same).1 (by decide)

end SnapshotTypes
