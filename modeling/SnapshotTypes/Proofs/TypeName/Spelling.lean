import SnapshotTypes.Proofs.TypeName.Characters
import Mathlib.Data.List.DropRight

/-!
# Collections of a given type name

Underscores at the ends of a collection's name leave no trace in its type name. A word of one
capital letter and small letters is the type name of those collections only that spell it, between
such underscores, with a first character whose capital form is the capital letter.
-/

set_option autoImplicit false

namespace SnapshotTypes

/-- A name without the underscores at its ends. -/
def unpadded (collection : String) : String :=
  String.ofList ((collection.toList.dropWhile (· = '_')).rdropWhile (· = '_'))

/-!
## Padding
-/

theorem joinSegments_true_dropWhile (cs : List Char) :
    joinSegments true (cs.dropWhile (· = '_')) = joinSegments true cs := by
  induction cs with
  | nil => rfl
  | cons c rest ih =>
      by_cases pad : c = '_'
      · rw [List.dropWhile_cons_of_pos (by simpa using pad), ih, joinSegments, if_pos pad]
      · rw [List.dropWhile_cons_of_neg (by simpa using pad)]

/-- A segment begins after an underscore, whatever stands before. -/
theorem joinSegments_append_pad (atStart : Bool) (first second : List Char) :
    joinSegments atStart (first ++ '_' :: second) =
      joinSegments atStart first ++ joinSegments true second := by
  induction first generalizing atStart with
  | nil => rfl
  | cons c rest ih =>
      rw [List.cons_append, joinSegments, joinSegments]
      by_cases pad : c = '_'
      · rw [if_pos pad, if_pos pad, ih]
      · rw [if_neg pad, if_neg pad]
        cases atStart with
        | true => rw [if_pos rfl, if_pos rfl, ih, List.append_assoc]
        | false =>
            rw [if_neg Bool.false_ne_true, if_neg Bool.false_ne_true, ih, List.cons_append]

theorem joinSegments_rdropWhile (atStart : Bool) (cs : List Char) :
    joinSegments atStart (cs.rdropWhile (· = '_')) = joinSegments atStart cs := by
  induction cs using List.reverseRecOn with
  | nil => rfl
  | append_singleton cs c ih =>
      by_cases pad : c = '_'
      · rw [List.rdropWhile_concat_pos _ _ _ (by simpa using pad), ih, pad,
          joinSegments_append_pad, joinSegments, List.append_nil]
      · rw [List.rdropWhile_concat_neg _ _ _ (by simpa using pad)]

/-- Within a segment all characters stay as they are. -/
theorem joinSegments_of_no_pad {cs : List Char} (noPad : '_' ∉ cs) :
    joinSegments false cs = cs := by
  induction cs with
  | nil => rfl
  | cons c rest ih =>
      rw [List.mem_cons, not_or] at noPad
      rw [joinSegments, if_neg (Ne.symm noPad.1), if_neg Bool.false_ne_true, ih noPad.2]

theorem typeName_unpadded (collection : String) :
    typeName (unpadded collection) = typeName collection := by
  rw [typeName, unpadded, String.toList_ofList, joinSegments_rdropWhile,
    joinSegments_true_dropWhile, typeName]

private theorem rdropWhile_cons_of_neg {α : Type} {p : α → Bool} {value : α} (values : List α)
    (kept : ¬ p value) : (value :: values).rdropWhile p = value :: values.rdropWhile p := by
  induction values using List.reverseRecOn with
  | nil => exact List.rdropWhile_concat_neg p [] value kept
  | append_singleton values last ih =>
      rw [← List.cons_append]
      by_cases dropped : p last
      · rw [List.rdropWhile_concat_pos _ _ _ dropped, List.rdropWhile_concat_pos _ _ _ dropped, ih]
      · rw [List.rdropWhile_concat_neg _ _ _ dropped, List.rdropWhile_concat_neg _ _ _ dropped,
          List.cons_append]

/-- The first character that is left is not an underscore. -/
theorem unpadded_cases (collection : String) :
    (unpadded collection).toList = [] ∨
      ∃ c, ∃ rest : List Char, c ≠ '_' ∧
        (unpadded collection).toList = c :: rest.rdropWhile (· = '_') := by
  rw [unpadded, String.toList_ofList]
  cases left : collection.toList.dropWhile (· = '_') with
  | nil => exact .inl rfl
  | cons c rest =>
      have remains : collection.toList.dropWhile (· = '_') ≠ [] := by simp [left]
      have kept : c ≠ '_' := by
        have stops := List.head_dropWhile_not (fun c : Char => decide (c = '_')) remains
        simpa [left] using stops
      exact .inr ⟨c, rest, kept, rdropWhile_cons_of_neg rest (by simpa using kept)⟩

/-!
## Words of small letters
-/

def IsSmall (word : List Char) : Prop :=
  ∀ c ∈ word, c.isLower = true

instance (word : List Char) : Decidable (IsSmall word) :=
  List.decidableBAll _ word

theorem joinSegments_of_isSmall {word : List Char} (small : IsSmall word) :
    joinSegments false word = word := by
  apply joinSegments_of_no_pad
  intro pad
  exact absurd (small '_' pad) (by decide)

/-- A segment that begins contributes a character that is no small letter. -/
theorem eq_pad_of_joinSegments_isSmall {cs : List Char} (small : IsSmall (joinSegments true cs)) :
    joinSegments true cs = [] ∧ ∀ c ∈ cs, c = '_' := by
  induction cs with
  | nil => exact ⟨rfl, by simp⟩
  | cons c rest ih =>
      rw [joinSegments] at small ⊢
      by_cases pad : c = '_'
      · rw [if_pos pad] at small ⊢
        obtain ⟨nothing, pads⟩ := ih small
        exact ⟨nothing, List.forall_mem_cons.mpr ⟨pad, pads⟩⟩
      · rw [if_neg pad, if_pos rfl] at small
        obtain ⟨first, begins⟩ := List.exists_mem_of_ne_nil _ (Text.capital_ne_nil c)
        have letter := small first (List.mem_append_left _ begins)
        rw [Text.isLower_of_mem_capital begins] at letter
        cases letter

theorem joinSegments_eq_iff_of_isSmall {cs word : List Char} (small : IsSmall word) :
    joinSegments false cs = word ↔ cs.rdropWhile (· = '_') = word := by
  constructor
  · intro joined
    induction cs generalizing word with
    | nil => exact joined
    | cons c rest ih =>
        rw [joinSegments] at joined
        by_cases pad : c = '_'
        · rw [if_pos pad] at joined
          subst joined
          obtain ⟨nothing, pads⟩ := eq_pad_of_joinSegments_isSmall small
          rw [nothing, List.rdropWhile_eq_nil_iff]
          simpa using ⟨pad, pads⟩
        · rw [if_neg pad] at joined
          subst joined
          obtain ⟨_, small⟩ := List.forall_mem_cons.mp small
          rw [rdropWhile_cons_of_neg rest (by simpa using pad), ih small rfl]
          rfl
  · intro same
    rw [← joinSegments_rdropWhile, same, joinSegments_of_isSmall small]

/-!
## Type names that are capitalized words
-/

theorem toList_typeName_eq_iff {collection : String} {initial : Char} {word : List Char}
    (small : IsSmall word) :
    (typeName collection).toList = initial :: word ↔
      ∃ c, Text.capital c = [initial] ∧ (unpadded collection).toList = c :: word := by
  rw [← typeName_unpadded, typeName, String.toList_ofList]
  rcases unpadded_cases collection with nothing | ⟨c, rest, kept, left⟩
  · simp [nothing, joinSegments]
  · rw [left, joinSegments, if_neg kept, if_pos rfl, joinSegments_rdropWhile]
    constructor
    · intro joined
      obtain ⟨first, more, form⟩ := List.exists_cons_of_ne_nil (Text.capital_ne_nil c)
      rw [form, List.cons_append, List.cons.injEq] at joined
      obtain ⟨rfl, joined⟩ := joined
      -- Nothing of the capital form but its first character can be in the word.
      cases more with
      | nil => exact ⟨c, form, by rw [(joinSegments_eq_iff_of_isSmall small).mp joined]⟩
      | cons second others =>
          have letter := small second (by rw [← joined]; exact List.mem_cons_self)
          rw [Text.isLower_of_mem_capital (c := c) (by simp [form])] at letter
          cases letter
    · intro given
      obtain ⟨first, form, same⟩ := given
      rw [List.cons.injEq] at same
      obtain ⟨rfl, same⟩ := same
      rw [form, (joinSegments_eq_iff_of_isSmall small).mpr same]
      rfl

theorem typeName_eq_capitalized_iff {collection : String} {first initial : Char} {word : List Char}
    (letter : initial.isUpper = true) (pair : first.toNat = initial.toNat + 0x20)
    (small : IsSmall word) :
    typeName collection = String.ofList (initial :: word) ↔
      unpadded collection = String.ofList (initial :: word) ∨
      unpadded collection = String.ofList (first :: word) ∨
      (unpadded collection = String.ofList ('ı' :: word) ∧ initial = 'I') ∨
      (unpadded collection = String.ofList ('ſ' :: word) ∧ initial = 'S') := by
  have texts : ∀ (text : String) (cs : List Char), text = String.ofList cs ↔ text.toList = cs := by
    intro text cs
    rw [← String.toList_inj, String.toList_ofList]
  simp only [texts, toList_typeName_eq_iff small, Text.capital_eq_singleton_iff letter pair]
  constructor
  · rintro ⟨c, rfl | rfl | ⟨rfl, own⟩ | ⟨rfl, own⟩, same⟩
    · exact .inl same
    · exact .inr (.inl same)
    · exact .inr (.inr (.inl ⟨same, own⟩))
    · exact .inr (.inr (.inr ⟨same, own⟩))
  · rintro (same | same | ⟨same, own⟩ | ⟨same, own⟩)
    · exact ⟨_, .inl rfl, same⟩
    · exact ⟨_, .inr (.inl rfl), same⟩
    · exact ⟨_, .inr (.inr (.inl ⟨rfl, own⟩)), same⟩
    · exact ⟨_, .inr (.inr (.inr ⟨rfl, own⟩)), same⟩

theorem typeName_eq_schema_iff {collection : String} :
    typeName collection = "Schema" ↔ unpadded collection ∈ ["Schema", "schema", "ſchema"] := by
  have small : IsSmall "chema".toList := by decide
  have spelled := @typeName_eq_capitalized_iff collection 's' 'S' _ (by decide) (by decide) small
  simpa using spelled

theorem typeName_eq_date_iff {collection : String} :
    typeName collection = "Date" ↔ unpadded collection ∈ ["Date", "date"] := by
  have small : IsSmall "ate".toList := by decide
  have spelled := @typeName_eq_capitalized_iff collection 'd' 'D' _ (by decide) (by decide) small
  simpa using spelled

end SnapshotTypes
