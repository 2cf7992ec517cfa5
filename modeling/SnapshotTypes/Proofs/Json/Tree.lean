import SnapshotTypes.Json.Text

/-!
# JSON values and their texts

Values as trees, where an object is a list of entries that may repeat a key and a number is any
numeral. A tree has many texts: blanks may stand between all tokens. Strings are written in one way.
-/

set_option autoImplicit false

namespace SnapshotTypes.Json

/-!
## Numerals
-/

def AreDigits (text : List Char) : Prop :=
  ∀ c ∈ text, c.isDigit = true

instance (text : List Char) : Decidable (AreDigits text) :=
  @List.decidableBAll Char (fun c => c.isDigit = true) (fun _ => inferInstance) text

inductive IsWhole : List Char → Prop
  | zero : IsWhole ['0']
  | digits {first : Char} {rest : List Char} :
      first.isDigit = true → first ≠ '0' → AreDigits rest → IsWhole (first :: rest)

inductive IsFraction : List Char → Prop
  | absent : IsFraction []
  | digits {first : Char} {rest : List Char} :
      AreDigits (first :: rest) → IsFraction ('.' :: first :: rest)

inductive IsExponent : List Char → Prop
  | absent : IsExponent []
  | digits {letter first : Char} {sign rest : List Char} :
      letter = 'e' ∨ letter = 'E' → sign ∈ [[], ['+'], ['-']] → AreDigits (first :: rest) →
      IsExponent (letter :: (sign ++ first :: rest))

/-- The numerals of JSON, of any size. -/
structure Numeral where
  negative : Bool
  whole : List Char
  fraction : List Char
  exponent : List Char
  isWhole : IsWhole whole
  isFraction : IsFraction fraction
  isExponent : IsExponent exponent

def Numeral.magnitude (numeral : Numeral) : List Char :=
  numeral.whole ++ (numeral.fraction ++ numeral.exponent)

def Numeral.text (numeral : Numeral) : List Char :=
  if numeral.negative then '-' :: numeral.magnitude else numeral.magnitude

/-!
## Values
-/

/-- Entries keep their order, and a key may occur again. -/
inductive Tree where
  | null
  | boolean (value : Bool)
  | number (numeral : Numeral)
  | text (value : String)
  | list (elements : List Tree)
  | object (entries : List (String × Tree))

/-- Induction over values, with the hypothesis for every element and every entry. -/
theorem Tree.induction {motive : Tree → Prop} (null : motive .null)
    (boolean : ∀ value, motive (.boolean value)) (number : ∀ numeral, motive (.number numeral))
    (text : ∀ value, motive (.text value))
    (list : ∀ elements, (∀ element ∈ elements, motive element) → motive (.list elements))
    (object : ∀ entries : List (String × Tree), (∀ entry ∈ entries, motive entry.2) →
      motive (.object entries)) (tree : Tree) : motive tree :=
  @Tree.rec motive (fun elements => ∀ element ∈ elements, motive element)
    (fun entries => ∀ entry ∈ entries, motive entry.2) (fun entry => motive entry.2)
    null boolean number text list object
    (fun _ member => absurd member List.not_mem_nil)
    (fun _ _ head tail => List.forall_mem_cons.mpr ⟨head, tail⟩)
    (fun _ member => absurd member List.not_mem_nil)
    (fun _ _ head tail => List.forall_mem_cons.mpr ⟨head, tail⟩)
    (fun _ _ value => value) tree

/-!
## Texts
-/

def AreBlanks (text : List Char) : Prop :=
  ∀ c ∈ text, isBlank c = true

instance (text : List Char) : Decidable (AreBlanks text) :=
  @List.decidableBAll Char (fun c => isBlank c = true) (fun _ => inferInstance) text

theorem areBlanks_nil : AreBlanks [] :=
  fun _ member => absurd member List.not_mem_nil

/-- Items with commas between them, where `opened` tells that none has been written yet. Blanks may
stand around every item and every comma. -/
inductive Separated {α : Type} (writes : α → List Char → Prop) : Bool → List α → List Char → Prop
  | finished {opened : Bool} {gap : List Char} :
      AreBlanks gap → Separated writes opened [] gap
  | first {value : α} {values : List α} {before text later : List Char} :
      AreBlanks before → writes value text → Separated writes false values later →
      Separated writes true (value :: values) (before ++ (text ++ later))
  | next {value : α} {values : List α} {gap before text later : List Char} :
      AreBlanks gap → AreBlanks before → writes value text →
      Separated writes false values later →
      Separated writes false (value :: values) (gap ++ ',' :: (before ++ (text ++ later)))

/-- What stands before an item: blanks before the first one, and a comma among blanks before a later
one. -/
inductive Gap : Bool → List Char → Prop
  | first {before : List Char} : AreBlanks before → Gap true before
  | next {gap before : List Char} :
      AreBlanks gap → AreBlanks before → Gap false (gap ++ ',' :: before)

mutual

/-- The texts of a value, from its first character to its last one. -/
inductive Written : Tree → List Char → Prop
  | null : Written .null ['n', 'u', 'l', 'l']
  | true : Written (.boolean true) ['t', 'r', 'u', 'e']
  | false : Written (.boolean false) ['f', 'a', 'l', 's', 'e']
  | number (numeral : Numeral) : Written (.number numeral) numeral.text
  | text (value : String) : Written (.text value) (Text.quoted value).toList
  | list {elements : List Tree} {body : List Char} :
      Separated Written true elements body → Written (.list elements) ('[' :: (body ++ [']']))
  | object {entries : List (String × Tree)} {body : List Char} :
      Separated WrittenEntry true entries body →
      Written (.object entries) ('{' :: (body ++ ['}']))

/-- The texts of an entry of an object: its key, a colon and its value. -/
inductive WrittenEntry : String × Tree → List Char → Prop
  | entry {key : String} {tree : Tree} {gap before text : List Char} :
      AreBlanks gap → AreBlanks before → Written tree text →
      WrittenEntry (key, tree)
        ((Text.quoted key).toList ++ (gap ++ ':' :: (before ++ text)))

end

/-- A text that holds one value and blanks around it. -/
def IsDocument (tree : Tree) (source : String) : Prop :=
  ∃ before text after, AreBlanks before ∧ Written tree text ∧ AreBlanks after ∧
    source.toList = before ++ (text ++ after)

theorem exists_separated {α : Type} {writes : α → List Char → Prop} {values : List α}
    (each : ∀ value ∈ values, ∃ text, writes value text) (opened : Bool) :
    ∃ body, Separated writes opened values body := by
  induction values generalizing opened with
  | nil => exact ⟨[], .finished areBlanks_nil⟩
  | cons value values ih =>
      obtain ⟨⟨text, written⟩, others⟩ := List.forall_mem_cons.mp each
      obtain ⟨later, separated⟩ := ih others false
      cases opened with
      | true => exact ⟨_, .first areBlanks_nil written separated⟩
      | false => exact ⟨_, .next areBlanks_nil areBlanks_nil written separated⟩

theorem Tree.exists_written (tree : Tree) : ∃ text, Written tree text := by
  induction tree using Tree.induction with
  | null => exact ⟨_, .null⟩
  | boolean value =>
      cases value with
      | true => exact ⟨_, .true⟩
      | false => exact ⟨_, .false⟩
  | number numeral => exact ⟨_, .number numeral⟩
  | text value => exact ⟨_, .text value⟩
  | list elements ih =>
      obtain ⟨body, separated⟩ := exists_separated ih true
      exact ⟨_, .list separated⟩
  | object entries ih =>
      have each : ∀ entry ∈ entries, ∃ text, WrittenEntry entry text := by
        intro entry member
        obtain ⟨text, written⟩ := ih entry member
        exact ⟨_, .entry areBlanks_nil areBlanks_nil written⟩
      obtain ⟨body, separated⟩ := exists_separated each true
      exact ⟨_, .object separated⟩

theorem Tree.exists_isDocument (tree : Tree) : ∃ source, IsDocument tree source := by
  obtain ⟨text, written⟩ := tree.exists_written
  refine ⟨String.ofList text, [], text, [], areBlanks_nil, written, areBlanks_nil, ?_⟩
  rw [String.toList_ofList, List.nil_append, List.append_nil]

/-!
## Compact texts

Of all texts of a value there is one without blanks.
-/

theorem Tree.sizeOf_lt_list {element : Tree} {elements : List Tree} (member : element ∈ elements) :
    sizeOf element < sizeOf (Tree.list elements) := by
  have inList := List.sizeOf_lt_of_mem member
  rw [list.sizeOf_spec]
  omega

theorem Tree.sizeOf_lt_object {entry : String × Tree} {entries : List (String × Tree)}
    (member : entry ∈ entries) : sizeOf entry.2 < sizeOf (Tree.object entries) := by
  have inList := List.sizeOf_lt_of_mem member
  have inEntry : sizeOf entry = 1 + sizeOf entry.1 + sizeOf entry.2 := rfl
  rw [object.sizeOf_spec]
  omega

/-- The text of a value without any blanks. -/
def Tree.compact : Tree → List Char
  | .null => "null".toList
  | .boolean value => (toString value).toList
  | .number numeral => numeral.text
  | .text value => (Text.quoted value).toList
  | .list elements => '[' :: ([','].intercalate (elements.map compact) ++ [']'])
  | .object entries =>
    '{' :: ([','].intercalate (entries.map fun entry =>
      (Text.quoted entry.1).toList ++ ':' :: compact entry.2) ++ ['}'])
decreasing_by
  · exact Tree.sizeOf_lt_list ‹_›
  · exact Tree.sizeOf_lt_object ‹_›

/-- The items after the first one have a comma before them. -/
theorem separated_flatMap {α : Type} {writes : α → List Char → Prop} {write : α → List Char}
    {values : List α} (each : ∀ value ∈ values, writes value (write value)) :
    Separated writes false values (values.flatMap fun value => ',' :: write value) := by
  induction values with
  | nil => exact .finished areBlanks_nil
  | cons value values ih =>
      obtain ⟨first, others⟩ := List.forall_mem_cons.mp each
      exact .next areBlanks_nil areBlanks_nil first (ih others)

theorem intercalate_map_cons {α β : Type} (comma : β) (write : α → List β) (value : α)
    (values : List α) :
    [comma].intercalate ((value :: values).map write) =
      write value ++ values.flatMap fun value => comma :: write value := by
  induction values generalizing value with
  | nil => simp
  | cons next values ih =>
      rw [List.map_cons, List.map_cons, List.intercalate_cons_cons, ← List.map_cons, ih,
        List.flatMap_cons, List.append_assoc, List.singleton_append, List.cons_append]

theorem separated_intercalate {α : Type} {writes : α → List Char → Prop} {write : α → List Char}
    {values : List α} (each : ∀ value ∈ values, writes value (write value)) :
    Separated writes true values ([','].intercalate (values.map write)) := by
  cases values with
  | nil => exact .finished areBlanks_nil
  | cons value values =>
      obtain ⟨first, others⟩ := List.forall_mem_cons.mp each
      rw [intercalate_map_cons]
      exact .first areBlanks_nil first (separated_flatMap others)

theorem written_compact (tree : Tree) : Written tree tree.compact := by
  induction tree using Tree.induction with
  | null => rw [Tree.compact]; exact .null
  | boolean value =>
      rw [Tree.compact]
      cases value with
      | true => exact .true
      | false => exact .false
  | number numeral => rw [Tree.compact]; exact .number numeral
  | text value => rw [Tree.compact]; exact .text value
  | list elements ih =>
      rw [Tree.compact]
      exact .list (separated_intercalate ih)
  | object entries ih =>
      rw [Tree.compact]
      refine .object (separated_intercalate fun entry member => ?_)
      have written : WrittenEntry entry _ := .entry areBlanks_nil areBlanks_nil (ih entry member)
      rwa [List.nil_append, List.nil_append] at written

end SnapshotTypes.Json
