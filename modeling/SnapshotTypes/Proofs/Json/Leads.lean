import SnapshotTypes.Document
import SnapshotTypes.Proofs.Json.Tokens

/-!
# What stands before a value

A path leads to a value within another one. What a text has before that value depends on the items
that come earlier, in the list or the object at every step of the path, and on nothing behind it.
-/

set_option autoImplicit false

namespace SnapshotTypes.Json

open Document (Path)

/-- The text of the earlier items of a list or an object, up to where the next one begins. -/
inductive Introduces {α : Type} (writes : α → List Char → Prop) :
    Bool → List α → List Char → Prop
  | here {opened : Bool} {gap : List Char} : Gap opened gap → Introduces writes opened [] gap
  | after {opened : Bool} {value : α} {values : List α} {gap text later : List Char} :
      Gap opened gap → writes value text → Introduces writes false values later →
      Introduces writes opened (value :: values) (gap ++ (text ++ later))

/-- What stands in a text of a value before the inner value that a path leads to. -/
inductive Leads : Tree → Path → Tree → List Char → Prop
  | here {value : Tree} : Leads value [] value []
  | element {elements earlier later : List Tree} {element value : Tree} {path : Path}
      {introduction lead : List Char} :
      elements = earlier ++ element :: later → Introduces Written true earlier introduction →
      Leads element path value lead →
      Leads (.list elements) (.index earlier.length :: path) value ('[' :: (introduction ++ lead))
  | entry {entries earlier later : List (String × Tree)} {key : String} {tree value : Tree}
      {path : Path} {introduction gap before lead : List Char} :
      entries = earlier ++ (key, tree) :: later →
      Introduces WrittenEntry true earlier introduction → AreBlanks gap → AreBlanks before →
      Leads tree path value lead →
      Leads (.object entries) (.key key :: path) value
        ('{' :: (introduction ++ ((Text.quoted key).toList ++ (gap ++ ':' :: (before ++ lead)))))

/-!
## In every text
-/

theorem Separated.exists_introduces {α : Type} {writes : α → List Char → Prop}
    {earlier later : List α} {value : α} {opened : Bool} {body : List Char}
    (separated : Separated writes opened (earlier ++ value :: later) body) :
    ∃ introduction text rest, body = introduction ++ (text ++ rest) ∧
      Introduces writes opened earlier introduction ∧ writes value text := by
  induction earlier generalizing opened body with
  | nil =>
      cases separated with
      | first blanks written _ => exact ⟨_, _, _, rfl, .here (.first blanks), written⟩
      | @next _ _ gap before text later gapBlanks blanks written _ =>
          refine ⟨gap ++ ',' :: before, text, later, ?_, .here (.next gapBlanks blanks), written⟩
          rw [List.append_assoc, List.cons_append]
  | cons first earlier ih =>
      cases separated with
      | first blanks written separated =>
          obtain ⟨introduction, text, rest, rfl, introduces, own⟩ := ih separated
          refine ⟨_, text, rest, ?_, .after (.first blanks) written introduces, own⟩
          simp only [List.append_assoc]
      | next gapBlanks blanks written separated =>
          obtain ⟨introduction, text, rest, rfl, introduces, own⟩ := ih separated
          refine ⟨_, text, rest, ?_, .after (.next gapBlanks blanks) written introduces, own⟩
          simp only [List.append_assoc, List.cons_append]

/-- Every text has the values that its value has within, with what leads to each of them. -/
theorem Leads.exists_of_written {tree value : Tree} {path : Path} {lead text : List Char}
    (leads : Leads tree path value lead) (written : Written tree text) :
    ∃ lead own rest, text = lead ++ (own ++ rest) ∧ Leads tree path value lead ∧
      Written value own := by
  induction leads generalizing text with
  | here => exact ⟨[], text, [], by simp, .here, written⟩
  | element split _ _ ih =>
      cases written with
      | list separated =>
          obtain ⟨introduction, _, later, rfl, introduces, inner⟩ :=
            (split ▸ separated).exists_introduces
          obtain ⟨lead, own, rest, rfl, leads, value⟩ := ih inner
          refine ⟨_, own, rest ++ (later ++ [']']), ?_, .element split introduces leads, value⟩
          simp only [List.append_assoc, List.cons_append]
  | entry split _ _ _ _ ih =>
      cases written with
      | object separated =>
          obtain ⟨introduction, _, later, rfl, introduces, inner⟩ :=
            (split ▸ separated).exists_introduces
          cases inner with
          | entry gapBlanks blanks inner =>
              obtain ⟨lead, own, rest, rfl, leads, value⟩ := ih inner
              refine ⟨_, own, rest ++ (later ++ ['}']), ?_,
                .entry split introduces gapBlanks blanks leads, value⟩
              simp only [List.append_assoc, List.cons_append]

/-!
## First characters
-/

theorem Gap.isDelimited {gap : List Char} (isGap : Gap false gap) (rest : List Char) :
    IsDelimited (gap ++ rest) := by
  cases isGap with
  | next blanks _ =>
      rw [List.append_assoc]
      exact isDelimited_append blanks (isDelimited_cons (by decide) _)

theorem Introduces.isDelimited {α : Type} {writes : α → List Char → Prop} {earlier : List α}
    {introduction : List Char} (introduces : Introduces writes false earlier introduction)
    (rest : List Char) : IsDelimited (introduction ++ rest) := by
  cases introduces with
  | here isGap => exact isGap.isDelimited rest
  | after isGap _ _ =>
      rw [List.append_assoc]
      exact isGap.isDelimited _

inductive Kind where
  | null
  | boolean
  | number
  | text
  | list
  | object
deriving DecidableEq, Repr

def Tree.kind : Tree → Kind
  | .null => .null
  | .boolean _ => .boolean
  | .number _ => .number
  | .text _ => .text
  | .list _ => .list
  | .object _ => .object

/-- A text that begins like a value of a certain kind, whether it is one or not. -/
inductive BeginsLike (kind : Kind) : List Char → Prop
  | char {tree : Tree} {c : Char} {rest : List Char} :
      tree.kind = kind → tree.BeginsWith c → BeginsLike kind (c :: rest)

theorem Written.beginsLike {tree : Tree} {text : List Char} (written : Written tree text) :
    BeginsLike tree.kind text := by
  obtain ⟨c, rest, rfl, begins⟩ := written.eq_cons
  exact .char rfl begins

theorem BeginsLike.append {kind : Kind} {text : List Char} (begins : BeginsLike kind text)
    (rest : List Char) : BeginsLike kind (text ++ rest) := by
  cases begins with
  | char isKind begins => exact .char isKind begins

/-- Where a value is replaced, the whole still begins like a value. -/
theorem Leads.beginsLike {tree value : Tree} {path : Path} {lead text : List Char} {kind : Kind}
    (leads : Leads tree path value lead) (begins : BeginsLike kind text) :
    ∃ whole : Kind, BeginsLike whole (lead ++ text) := by
  cases leads with
  | here => exact ⟨kind, begins⟩
  | element => exact ⟨.list, .char (rfl : (Tree.list []).kind = .list) rfl⟩
  | entry => exact ⟨.object, .char (rfl : (Tree.object []).kind = .object) rfl⟩

end SnapshotTypes.Json
