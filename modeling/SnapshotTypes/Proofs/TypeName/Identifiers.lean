import SnapshotTypes.Emission
import SnapshotTypes.Proofs.TypeName.Spelling

/-!
# Type names that are identifiers

Capitalization neither brings in nor removes an ASCII character that an identifier cannot have, and
the first character is a digit before if and only if it is one after. Whether a type name is an
identifier can therefore be told from the name of the collection.
-/

set_option autoImplicit false

namespace SnapshotTypes

/-- No ASCII character stands in the way of using the characters in a name. -/
def FitsName (cs : List Char) : Prop :=
  ∀ c ∈ cs, c.toNat < 0x80 → isNameRest c = true

/-- What the ASCII characters of a name can tell. All other characters are admitted anywhere. -/
structure IsIdentifier (name : String) : Prop where
  nonempty : name ≠ ""
  start : ∀ c ∈ name.toList.head?, c.isDigit = false
  fits : FitsName name.toList

instance (cs : List Char) : Decidable (FitsName cs) :=
  List.decidableBAll _ cs

instance (name : String) : Decidable (IsIdentifier name) :=
  letI : Decidable (∀ c ∈ name.toList.head?, c.isDigit = false) :=
    Option.decidableForallMem name.toList.head?
  decidable_of_iff
    (name ≠ "" ∧ (∀ c ∈ name.toList.head?, c.isDigit = false) ∧ FitsName name.toList)
    ⟨fun given => ⟨given.1, given.2.1, given.2.2⟩,
      fun given => ⟨given.nonempty, given.start, given.fits⟩⟩

theorem fitsName_append {first second : List Char} :
    FitsName (first ++ second) ↔ FitsName first ∧ FitsName second :=
  List.forall_mem_append

theorem fitsName_cons {c : Char} {rest : List Char} :
    FitsName (c :: rest) ↔ (c.toNat < 0x80 → isNameRest c = true) ∧ FitsName rest :=
  List.forall_mem_cons

theorem isIdentifier_iff_of_toList {name : String} {c : Char} {rest : List Char}
    (text : name.toList = c :: rest) :
    IsIdentifier name ↔ c.isDigit = false ∧ FitsName (c :: rest) := by
  constructor
  · intro identifier
    have start := identifier.start
    have fits := identifier.fits
    rw [text] at start fits
    exact ⟨start c rfl, fits⟩
  · intro given
    obtain ⟨start, fits⟩ := given
    refine ⟨?_, ?_, text ▸ fits⟩
    · rintro rfl
      cases text
    · rw [text]
      rintro first ⟨⟩
      exact start

/-!
## Capital forms
-/

theorem isNameRest_of_isAlpha {c : Char} (letter : c.isAlpha = true) : isNameRest c = true := by
  simp [isNameRest, Char.isAlphanum, letter]

theorem isNameRest_of_isLower {c : Char} (letter : c.isLower = true) : isNameRest c = true :=
  isNameRest_of_isAlpha ((Bool.or_eq_true _ _).mpr (.inr letter))

theorem isNameRest_of_isUpper {c : Char} (letter : c.isUpper = true) : isNameRest c = true :=
  isNameRest_of_isAlpha ((Bool.or_eq_true _ _).mpr (.inl letter))

theorem fitsName_capital_iff {c : Char} :
    FitsName (Text.capital c) ↔ (c.toNat < 0x80 → isNameRest c = true) := by
  constructor
  · intro fits ascii
    cases small : c.isLower with
    | true => exact isNameRest_of_isLower small
    | false =>
        rw [Text.capital_of_ascii ascii small] at fits
        exact fits c (List.mem_singleton_self c) ascii
  · intro fits d member ascii
    rcases Text.mem_capital member with letter | foreign | ⟨rfl, _⟩
    · exact isNameRest_of_isUpper letter
    · omega
    · exact fits ascii

theorem isDigit_of_capital {c first : Char} {more : List Char}
    (form : Text.capital c = first :: more) : first.isDigit = c.isDigit := by
  cases digit : c.isDigit with
  | true =>
      have range := Text.isDigit_iff.mp digit
      have large : c.isLower = false := by
        rw [Bool.eq_false_iff, Ne, Text.isLower_iff]
        omega
      rw [Text.capital_of_ascii (by omega) large, List.cons.injEq] at form
      rw [← form.1, digit]
  | false =>
      rw [Bool.eq_false_iff, Ne, Text.isDigit_iff]
      intro range
      have member : first ∈ Text.capital c := form ▸ List.mem_cons_self
      rcases Text.mem_capital member with letter | foreign | ⟨rfl, _⟩
      · rw [Text.isUpper_iff] at letter
        omega
      · omega
      · rw [Text.isDigit_iff.mpr range] at digit
        cases digit

/-!
## Type names
-/

theorem fitsName_joinSegments_iff {atStart : Bool} {cs : List Char} :
    FitsName (joinSegments atStart cs) ↔ FitsName cs := by
  induction cs generalizing atStart with
  | nil => rfl
  | cons c rest ih =>
      rw [joinSegments, fitsName_cons]
      by_cases pad : c = '_'
      · have admitted : isNameRest '_' = true := by decide
        rw [if_pos pad, ih, pad]
        simp [admitted]
      · rw [if_neg pad]
        cases atStart with
        | true => rw [if_pos rfl, fitsName_append, fitsName_capital_iff, ih]
        | false => rw [if_neg Bool.false_ne_true, fitsName_cons, ih]

theorem typeName_isIdentifier_iff {collection : String} :
    IsIdentifier (typeName collection) ↔ IsIdentifier (unpadded collection) := by
  rw [← typeName_unpadded]
  rcases unpadded_cases collection with nothing | ⟨c, rest, kept, left⟩
  · have empty : unpadded collection = "" := String.toList_inj.mp nothing
    rw [empty]
    rfl
  · obtain ⟨first, more, form⟩ := List.exists_cons_of_ne_nil (Text.capital_ne_nil c)
    have joined : joinSegments true (c :: rest.rdropWhile (· = '_')) =
        first :: (more ++ joinSegments false (rest.rdropWhile (· = '_'))) := by
      rw [joinSegments, if_neg kept, if_pos rfl, form, List.cons_append]
    have text : (typeName (unpadded collection)).toList =
        first :: (more ++ joinSegments false (rest.rdropWhile (· = '_'))) := by
      rw [typeName, String.toList_ofList, left, joined]
    rw [isIdentifier_iff_of_toList text, isIdentifier_iff_of_toList left, ← joined,
      fitsName_joinSegments_iff, isDigit_of_capital form]

end SnapshotTypes
