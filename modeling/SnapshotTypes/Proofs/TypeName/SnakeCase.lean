import SnapshotTypes.Emission
import SnapshotTypes.Proofs.TypeName.Characters

/-!
# Names in snake case

A name in snake case has segments of small letters and digits, each begun by a letter. Its type name
has a capital letter for each segment and no other, so that the segments can be told from it again.
-/

set_option autoImplicit false

namespace SnapshotTypes

/-- What may follow the first letter of a name in snake case. An underscore begins another segment.
-/
def continuesSnakeCase : List Char → Bool
  | [] => true
  | '_' :: c :: rest => c.isLower && continuesSnakeCase rest
  | c :: rest => (c.isLower || c.isDigit) && continuesSnakeCase rest

def isSnakeCase (name : String) : Bool :=
  match name.toList with
  | [] => false
  | c :: rest => c.isLower && continuesSnakeCase rest

def isPascalCase (name : String) : Bool :=
  match name.toList with
  | [] => false
  | c :: rest => c.isUpper && rest.all Char.isAlphanum

/-- Begins a segment at every capital letter, with an underscore before it unless it is the first.
-/
def separated (atStart : Bool) : List Char → List Char
  | [] => []
  | c :: rest =>
    if c.isUpper then
      let segment := Char.ofNat (c.toNat + 0x20) :: separated false rest
      if atStart then segment else '_' :: segment
    else c :: separated false rest

theorem exists_capital_of_isLower {c : Char} (small : c.isLower = true) :
    ∃ large, Text.capital c = [large] ∧ large.isUpper = true ∧
      Char.ofNat (large.toNat + 0x20) = c := by
  have range := Text.isLower_iff.mp small
  have valid : (c.toNat - 0x20).isValidChar := .inl (by omega)
  have moved := Text.toNat_ofNat_of_valid valid
  refine ⟨Char.ofNat (c.toNat - 0x20), ?_, ?_, ?_⟩
  · rw [Text.capital, Text.capitalCodes_of_small range, List.map_singleton]
  · rw [Text.isUpper_iff, moved]
    omega
  · rw [moved, Nat.sub_add_cancel (by omega), Char.ofNat_toNat]

theorem ne_pad_of_isLower {c : Char} (small : c.isLower = true) : c ≠ '_' := by
  rintro rfl
  exact absurd small (by decide)

theorem exists_joinSegments_of_isLower {c : Char} (small : c.isLower = true) (rest : List Char) :
    ∃ large, joinSegments true (c :: rest) = large :: joinSegments false rest ∧
      large.isUpper = true ∧ Char.ofNat (large.toNat + 0x20) = c := by
  obtain ⟨large, form, letter, back⟩ := exists_capital_of_isLower small
  refine ⟨large, ?_, letter, back⟩
  rw [joinSegments, if_neg (ne_pad_of_isLower small), if_pos rfl, form, List.singleton_append]

theorem isAlphanum_of_isAlpha {c : Char} (letter : c.isAlpha = true) : c.isAlphanum = true :=
  (Bool.or_eq_true _ _).mpr (.inl letter)

theorem isAlpha_of_isUpper {c : Char} (letter : c.isUpper = true) : c.isAlpha = true :=
  (Bool.or_eq_true _ _).mpr (.inl letter)

/-- The characters within a segment stay as they are, and none of them is a capital letter. -/
theorem joinSegments_within {c : Char} (within : (c.isLower || c.isDigit) = true)
    (rest : List Char) :
    joinSegments false (c :: rest) = c :: joinSegments false rest ∧ c.isUpper = false ∧
      c.isAlphanum = true := by
  have kept : c ≠ '_' := by
    rintro rfl
    exact absurd within (by decide)
  rw [joinSegments, if_neg kept, if_neg Bool.false_ne_true]
  rcases (Bool.or_eq_true _ _).mp within with small | digit
  · refine ⟨rfl, ?_, isAlphanum_of_isAlpha ((Bool.or_eq_true _ _).mpr (.inr small))⟩
    rw [Text.isLower_iff] at small
    rw [Bool.eq_false_iff, Ne, Text.isUpper_iff]
    omega
  · refine ⟨rfl, ?_, (Bool.or_eq_true _ _).mpr (.inr digit)⟩
    rw [Text.isDigit_iff] at digit
    rw [Bool.eq_false_iff, Ne, Text.isUpper_iff]
    omega

theorem separated_joinSegments {cs : List Char} (continues : continuesSnakeCase cs = true) :
    separated false (joinSegments false cs) = cs := by
  fun_induction continuesSnakeCase cs with
  | case1 => rfl
  | case2 c rest ih =>
      obtain ⟨small, continues⟩ := (Bool.and_eq_true _ _).mp continues
      obtain ⟨large, joined, letter, back⟩ := exists_joinSegments_of_isLower small rest
      rw [joinSegments, if_pos rfl, joined, separated, if_pos letter, if_neg Bool.false_ne_true,
        back, ih continues]
  | case3 c rest _ ih =>
      obtain ⟨within, continues⟩ := (Bool.and_eq_true _ _).mp continues
      obtain ⟨joined, other, _⟩ := joinSegments_within within rest
      rw [joined, separated, other, if_neg Bool.false_ne_true, ih continues]

theorem all_isAlphanum_joinSegments {cs : List Char} (continues : continuesSnakeCase cs = true) :
    (joinSegments false cs).all Char.isAlphanum = true := by
  fun_induction continuesSnakeCase cs with
  | case1 => rfl
  | case2 c rest ih =>
      obtain ⟨small, continues⟩ := (Bool.and_eq_true _ _).mp continues
      obtain ⟨large, joined, letter, _⟩ := exists_joinSegments_of_isLower small rest
      have alphanumeric := isAlphanum_of_isAlpha (isAlpha_of_isUpper letter)
      rw [joinSegments, if_pos rfl, joined, List.all_cons, alphanumeric, ih continues,
        Bool.and_true]
  | case3 c rest _ ih =>
      obtain ⟨within, continues⟩ := (Bool.and_eq_true _ _).mp continues
      obtain ⟨joined, _, admitted⟩ := joinSegments_within within rest
      rw [joined, List.all_cons, admitted, ih continues, Bool.and_true]

theorem exists_of_isSnakeCase {name : String} (snakeCase : isSnakeCase name = true) :
    ∃ c rest, name.toList = c :: rest ∧ c.isLower = true ∧ continuesSnakeCase rest = true := by
  unfold isSnakeCase at snakeCase
  cases spelled : name.toList with
  | nil =>
      rw [spelled] at snakeCase
      cases snakeCase
  | cons c rest =>
      rw [spelled] at snakeCase
      exact ⟨c, rest, rfl, (Bool.and_eq_true _ _).mp snakeCase⟩

/-- A name in snake case is rebuilt from its type name. -/
theorem separated_typeName {name : String} (snakeCase : isSnakeCase name = true) :
    separated true (typeName name).toList = name.toList := by
  obtain ⟨c, rest, spelled, small, continues⟩ := exists_of_isSnakeCase snakeCase
  obtain ⟨large, joined, letter, back⟩ := exists_joinSegments_of_isLower small rest
  rw [typeName, String.toList_ofList, spelled, joined, separated, if_pos letter, if_pos rfl, back,
    separated_joinSegments continues]

theorem typeName_inj_of_isSnakeCase {first second : String} (firstCase : isSnakeCase first = true)
    (secondCase : isSnakeCase second = true) (same : typeName first = typeName second) :
    first = second := by
  apply String.toList_inj.mp
  rw [← separated_typeName firstCase, same, separated_typeName secondCase]

theorem isPascalCase_typeName {name : String} (snakeCase : isSnakeCase name = true) :
    isPascalCase (typeName name) = true := by
  obtain ⟨c, rest, spelled, small, continues⟩ := exists_of_isSnakeCase snakeCase
  obtain ⟨large, joined, letter, _⟩ := exists_joinSegments_of_isLower small rest
  rw [isPascalCase, typeName, String.toList_ofList, spelled, joined]
  exact (Bool.and_eq_true _ _).mpr ⟨letter, all_isAlphanum_joinSegments continues⟩

/-- Names of this form may stand bare in the text. -/
theorem isBareName_of_isPascalCase {name : String} (pascalCase : isPascalCase name = true) :
    isBareName name = true := by
  unfold isPascalCase at pascalCase
  unfold isBareName
  cases spelled : name.toList with
  | nil =>
      rw [spelled] at pascalCase
      cases pascalCase
  | cons c rest =>
      rw [spelled] at pascalCase
      obtain ⟨letter, later⟩ := (Bool.and_eq_true _ _).mp pascalCase
      refine (Bool.and_eq_true _ _).mpr ⟨?_, ?_⟩
      · simp [isNameStart, isAlpha_of_isUpper letter]
      · rw [List.all_eq_true] at later ⊢
        intro d member
        simp [isNameRest, later d member]

end SnapshotTypes
