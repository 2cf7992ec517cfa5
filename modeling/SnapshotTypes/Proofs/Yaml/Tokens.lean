import SnapshotTypes.Proofs.Json.Tree
import SnapshotTypes.Proofs.Yaml.Lexemes

/-!
# Compact JSON as tokens of YAML

The compact text of a value is read as a flow collection, if the value holds no numbers and only
ASCII texts without the delete character, and if its keys are short enough for keys of YAML.
-/

set_option autoImplicit false

namespace SnapshotTypes.Yaml

open Json (Tree)

/-!
## Values that both notations share
-/

/-- The characters below the delete character. -/
def IsAscii (text : String) : Prop :=
  ∀ c ∈ text.toList, c.toNat < 0x7f

instance (text : String) : Decidable (IsAscii text) :=
  @List.decidableBAll Char (fun c => c.toNat < 0x7f) (fun _ => inferInstance) text.toList

/-- Longer texts may be no keys unless they are marked as such. -/
def IsShortKey (key : String) : Prop :=
  IsAscii key ∧ (inQuotes key.toList).length ≤ 1024

instance (key : String) : Decidable (IsShortKey key) :=
  inferInstanceAs (Decidable (_ ∧ _))

inductive IsShared : Tree → Prop
  | null : IsShared .null
  | boolean (value : Bool) : IsShared (.boolean value)
  | text {value : String} : IsAscii value → IsShared (.text value)
  | list {elements : List Tree} : (∀ element ∈ elements, IsShared element) →
      IsShared (.list elements)
  | object {entries : List (String × Tree)} : (∀ entry ∈ entries, IsShortKey entry.1) →
      (∀ entry ∈ entries, IsShared entry.2) → IsShared (.object entries)

theorem isShared_object {entries : List (String × Tree)}
    (each : ∀ entry ∈ entries, IsShortKey entry.1 ∧ IsShared entry.2) :
    IsShared (.object entries) :=
  .object (fun entry member => (each entry member).1) fun entry member => (each entry member).2

/-!
## Characters
-/

/-- Printable characters, of which the compact text of a shared value consists. -/
def IsPrintable (text : List Char) : Prop :=
  ∀ c ∈ text, 0x20 ≤ c.toNat ∧ c.toNat < 0x7f

instance (text : List Char) : Decidable (IsPrintable text) :=
  @List.decidableBAll Char (fun c => 0x20 ≤ c.toNat ∧ c.toNat < 0x7f) (fun _ => inferInstance) text

theorem isPrintable_escapedChar {c : Char} (ascii : c.toNat < 0x7f) :
    IsPrintable (Text.escapedChar c) := by
  have all : ∀ code < 0x7f, IsPrintable (Text.escapedChar (Char.ofNat code)) := by decide
  have own := all c.toNat ascii
  rwa [Char.ofNat_toNat] at own

theorem isPrintable_append {first second : List Char} :
    IsPrintable (first ++ second) ↔ IsPrintable first ∧ IsPrintable second :=
  List.forall_mem_append

theorem isPrintable_cons {c : Char} {text : List Char} :
    IsPrintable (c :: text) ↔ (0x20 ≤ c.toNat ∧ c.toNat < 0x7f) ∧ IsPrintable text :=
  List.forall_mem_cons

theorem isPrintable_quoted {text : String} (ascii : IsAscii text) :
    IsPrintable (Text.quoted text).toList := by
  have quote : 0x20 ≤ '"'.toNat ∧ '"'.toNat < 0x7f := by decide
  rw [quoted_toList_eq_inQuotes, inQuotes, isPrintable_cons, isPrintable_append]
  refine ⟨quote, ?_, isPrintable_cons.mpr ⟨quote, List.forall_mem_nil _⟩⟩
  intro d member
  obtain ⟨c, source, inside⟩ := List.mem_flatMap.mp member
  exact isPrintable_escapedChar (ascii c source) d inside

theorem isPrintable_intercalate {items : List (List Char)}
    (each : ∀ item ∈ items, IsPrintable item) : IsPrintable ([','].intercalate items) := by
  have comma : IsPrintable [','] := by decide
  induction items with
  | nil => exact List.forall_mem_nil _
  | cons item items ih =>
      obtain ⟨first, others⟩ := List.forall_mem_cons.mp each
      cases items with
      | nil => rwa [List.intercalate_singleton]
      | cons next items =>
          rw [List.intercalate_cons_cons, isPrintable_append, isPrintable_append]
          exact ⟨⟨first, comma⟩, ih others⟩

theorem isPrintable_enclosed {first last : Char} (brackets : IsPrintable [first, last])
    {items : List (List Char)} (each : ∀ item ∈ items, IsPrintable item) :
    IsPrintable (first :: ([','].intercalate items ++ [last])) := by
  obtain ⟨begins, ends⟩ := isPrintable_cons.mp brackets
  rw [isPrintable_cons, isPrintable_append]
  exact ⟨begins, isPrintable_intercalate each, ends⟩

theorem IsShared.isPrintable {tree : Tree} (shared : IsShared tree) :
    IsPrintable tree.compact := by
  induction shared with
  | null => rw [Tree.compact]; decide
  | boolean value =>
      rw [Tree.compact]
      cases value <;> decide
  | text ascii =>
      rw [Tree.compact]
      exact isPrintable_quoted ascii
  | list _ ih =>
      rw [Tree.compact]
      exact isPrintable_enclosed (by decide) (List.forall_mem_map.mpr ih)
  | object short _ ih =>
      rw [Tree.compact]
      refine isPrintable_enclosed (by decide) (List.forall_mem_map.mpr fun entry member => ?_)
      rw [isPrintable_append, isPrintable_cons]
      exact ⟨isPrintable_quoted (short entry member).1, by decide, ih entry member⟩

theorem firstInadmissible?_of_isPrintable {text : List Char} (printable : IsPrintable text)
    (offset : Nat) : firstInadmissible? offset text = none := by
  induction text generalizing offset with
  | nil => rfl
  | cons c text ih =>
      obtain ⟨⟨above, below⟩, others⟩ := isPrintable_cons.mp printable
      have admissible : isAdmissible c = true := by
        simp only [isAdmissible, Bool.or_eq_true, Bool.and_eq_true, decide_eq_true_eq]
        omega
      rw [firstInadmissible?, if_pos admissible]
      exact ih others _

/-!
## Tokens
-/

def kindsOf : Tree → List TokenKind
  | .null => [.scalar "null".toList .plain]
  | .boolean value => [.scalar (toString value).toList .plain]
  | .number numeral => [.scalar numeral.text .plain]
  | .text value => [.scalar value.toList .doubleQuoted]
  | .list elements =>
    .flowSequenceStart :: ([.flowEntry].intercalate (elements.map kindsOf) ++ [.flowSequenceEnd])
  | .object entries =>
    .flowMappingStart :: ([.flowEntry].intercalate (entries.map fun entry =>
      .key :: .scalar entry.1.toList .doubleQuoted :: .value :: kindsOf entry.2) ++
        [.flowMappingEnd])
decreasing_by
  · exact Tree.sizeOf_lt_list ‹_›
  · exact Tree.sizeOf_lt_object ‹_›

namespace Scanner

theorem scans_intercalate {α : Type} {write : α → List Char} {kinds : α → List TokenKind}
    {depth : Nat} {values : List α}
    (each : ∀ value ∈ values, ∀ c rest, isFlowIndicator c = true →
      Scans ⟨depth, true, write value ++ c :: rest⟩ (kinds value) ⟨depth, false, c :: rest⟩)
    {c : Char} (ends : isFlowIndicator c = true) (rest : List Char) :
    ∃ keyAllowed, Scans ⟨depth, true, [','].intercalate (values.map write) ++ c :: rest⟩
      ([.flowEntry].intercalate (values.map kinds)) ⟨depth, keyAllowed, c :: rest⟩ := by
  induction values with
  | nil => exact ⟨true, .refl _⟩
  | cons value values ih =>
      obtain ⟨first, others⟩ := List.forall_mem_cons.mp each
      cases values with
      | nil =>
          simp only [List.map_cons, List.map_nil, List.intercalate_singleton]
          exact ⟨false, first c rest ends⟩
      | cons next values =>
          obtain ⟨keyAllowed, later⟩ := ih others
          refine ⟨keyAllowed, ?_⟩
          simp only [List.map_cons, List.intercalate_cons_cons, List.append_assoc,
            List.singleton_append] at later ⊢
          exact (first ',' _ (by decide)).trans ((scans_comma depth false _).trans later)

theorem scans_collection {α : Type} {write : α → List Char} {kinds : α → List TokenKind}
    {depth : Nat} {first last : Char} {opening closing : TokenKind}
    (opens : ∀ keyAllowed rest,
      Scans ⟨depth, keyAllowed, first :: rest⟩ [opening] ⟨depth + 1, true, rest⟩)
    (closes : ∀ keyAllowed rest,
      Scans ⟨depth + 1, keyAllowed, last :: rest⟩ [closing] ⟨depth, false, rest⟩)
    (ends : isFlowIndicator last = true) {values : List α}
    (each : ∀ value ∈ values, ∀ c rest, isFlowIndicator c = true →
      Scans ⟨depth + 1, true, write value ++ c :: rest⟩ (kinds value) ⟨depth + 1, false, c :: rest⟩)
    (keyAllowed : Bool) (rest : List Char) :
    Scans ⟨depth, keyAllowed, first :: ([','].intercalate (values.map write) ++ [last]) ++ rest⟩
      (opening :: ([.flowEntry].intercalate (values.map kinds) ++ [closing]))
      ⟨depth, false, rest⟩ := by
  obtain ⟨allowed, items⟩ := scans_intercalate each ends rest
  rw [List.cons_append, List.append_assoc]
  exact (opens keyAllowed _).trans (items.trans (closes allowed rest))

theorem isPlainWord_null : IsPlainWord "null".toList := by
  decide

theorem isPlainWord_boolean (value : Bool) : IsPlainWord (toString value).toList := by
  cases value with
  | false => decide
  | true => decide

/-- A value is read as its tokens wherever it stands within a collection. -/
def ScansInside (tree : Tree) : Prop :=
  ∀ depth keyAllowed c rest, isFlowIndicator c = true →
    Scans ⟨depth + 1, keyAllowed, tree.compact ++ c :: rest⟩ (kindsOf tree)
      ⟨depth + 1, false, c :: rest⟩

theorem scans_list {elements : List Tree} (each : ∀ element ∈ elements, ScansInside element)
    (depth : Nat) (keyAllowed : Bool) (rest : List Char) :
    Scans ⟨depth, keyAllowed, (Tree.list elements).compact ++ rest⟩ (kindsOf (.list elements))
      ⟨depth, false, rest⟩ := by
  rw [Tree.compact, kindsOf]
  exact scans_collection (scans_openBracket depth) (scans_closeBracket depth) (by decide)
    (fun element member => each element member depth true) keyAllowed rest

theorem scans_entry {entry : String × Tree} (short : IsShortKey entry.1)
    (inside : ScansInside entry.2) (depth : Nat) {c : Char} (ends : isFlowIndicator c = true)
    (rest : List Char) :
    Scans ⟨depth + 1, true,
        (Text.quoted entry.1).toList ++ ':' :: entry.2.compact ++ c :: rest⟩
      (.key :: .scalar entry.1.toList .doubleQuoted :: .value :: kindsOf entry.2)
      ⟨depth + 1, false, c :: rest⟩ := by
  rw [quoted_toList_eq_inQuotes, List.append_assoc, List.cons_append]
  exact (scans_key short.1 short.2 depth _).trans (inside depth false c rest ends)

theorem scans_object {entries : List (String × Tree)}
    (short : ∀ entry ∈ entries, IsShortKey entry.1)
    (each : ∀ entry ∈ entries, ScansInside entry.2) (depth : Nat) (keyAllowed : Bool)
    (rest : List Char) :
    Scans ⟨depth, keyAllowed, (Tree.object entries).compact ++ rest⟩ (kindsOf (.object entries))
      ⟨depth, false, rest⟩ := by
  rw [Tree.compact, kindsOf]
  exact scans_collection (scans_openBrace depth) (scans_closeBrace depth) (by decide)
    (fun entry member _ rest ends =>
      scans_entry (short entry member) (each entry member) depth ends rest) keyAllowed rest

theorem scansInside_of_isShared {tree : Tree} (shared : IsShared tree) : ScansInside tree := by
  induction shared with
  | null =>
      intro depth keyAllowed c rest ends
      rw [Tree.compact, kindsOf]
      exact scans_word isPlainWord_null ends depth keyAllowed rest
  | boolean value =>
      intro depth keyAllowed c rest ends
      rw [Tree.compact, kindsOf]
      exact scans_word (isPlainWord_boolean value) ends depth keyAllowed rest
  | text ascii =>
      intro depth keyAllowed c rest ends
      rw [Tree.compact, kindsOf, quoted_toList_eq_inQuotes]
      exact scans_quoted ascii (depth + 1) keyAllowed (c :: rest)
  | list _ ih => exact fun depth keyAllowed c rest _ => scans_list ih (depth + 1) keyAllowed _
  | object short _ ih =>
      exact fun depth keyAllowed c rest _ => scans_object short ih (depth + 1) keyAllowed _

end Scanner

/-- A shared object is a text of YAML without a fault. -/
theorem exists_tokens_of_isShared {entries : List (String × Tree)}
    (shared : IsShared (.object entries)) :
    ∃ tokens, TokenStream.ofText (Tree.object entries).compact = ⟨tokens, none⟩ ∧
      tokens.map Token.kind = kindsOf (.object entries) ++ [.streamEnd] := by
  have admissible := firstInadmissible?_of_isPrintable shared.isPrintable 0
  cases shared with
  | object short each =>
      have path := Scanner.scans_object short
        (fun entry member => Scanner.scansInside_of_isShared (each entry member)) 0 true []
      rw [List.append_nil] at path
      exact path.exists_ofText admissible

end SnapshotTypes.Yaml
