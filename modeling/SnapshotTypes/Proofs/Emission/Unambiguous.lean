import SnapshotTypes.Proofs.Emission.Lines
import SnapshotTypes.Proofs.Emission.Tokens
import Mathlib.Logic.Basic

/-!
# Unambiguous text

The text of a file of declarations determines the file. Lines are told apart first, since no token
holds a line break; then records, namespaces and their members are told by how their lines begin.
Names of members are arbitrary.
-/

set_option autoImplicit false

namespace SnapshotTypes

open Emitter (indentation indented written)

/-!
## Sequences up to a stop
-/

/-- Values that are written one after the other can be told up to a text that none of them begins.
-/
theorem SelfDelimiting.flatMap_inj {α β : Type} {admitted : α → Prop} {write : α → List β}
    (delimited : SelfDelimiting admitted write) (stops : List β → Prop)
    (apart : ∀ value rest, admitted value → ¬ stops (write value ++ rest))
    {first second : List α} (firstAdmitted : ∀ value ∈ first, admitted value)
    (secondAdmitted : ∀ value ∈ second, admitted value)
    {rest other : List β} (restStops : stops rest) (otherStops : stops other)
    (same : first.flatMap write ++ rest = second.flatMap write ++ other) :
    first = second ∧ rest = other := by
  induction first generalizing second with
  | nil =>
      cases second with
      | nil => exact ⟨rfl, same⟩
      | cons value second =>
          rw [List.flatMap_nil, List.nil_append, List.flatMap_cons, List.append_assoc] at same
          rw [same] at restStops
          exact absurd restStops (apart value _ (secondAdmitted value List.mem_cons_self))
  | cons value first ih =>
      obtain ⟨valueAdmitted, laterAdmitted⟩ := List.forall_mem_cons.mp firstAdmitted
      rw [List.flatMap_cons, List.append_assoc] at same
      cases second with
      | nil =>
          rw [List.flatMap_nil, List.nil_append] at same
          rw [← same] at otherStops
          exact absurd otherStops (apart value _ valueAdmitted)
      | cons head second =>
          obtain ⟨headAdmitted, othersAdmitted⟩ := List.forall_mem_cons.mp secondAdmitted
          rw [List.flatMap_cons, List.append_assoc] at same
          obtain ⟨rfl, later⟩ := delimited valueAdmitted headAdmitted same
          obtain ⟨rfl, rest⟩ := ih laterAdmitted othersAdmitted later
          exact ⟨rfl, rest⟩

/-!
## Lines
-/

def IsLine (line : String) : Prop :=
  '\n' ∉ line.toList

instance (line : String) : Decidable (IsLine line) :=
  inferInstanceAs (Decidable ('\n' ∉ line.toList))

theorem line_selfDelimiting : SelfDelimiting IsLine fun line => line.toList ++ ['\n'] := by
  intro first second rest other firstLine secondLine same
  have accepted : ∀ {line : String}, IsLine line → ∀ c ∈ line.toList, (c != '\n') = true := by
    intro line isLine c member
    exact bne_iff_ne.mpr fun same => isLine (same ▸ member)
  simp only [List.append_assoc, List.cons_append, List.nil_append] at same
  obtain ⟨lines, later⟩ := run_inj (accepted firstLine) (accepted secondLine)
    (by decide) (by decide) same
  exact ⟨String.toList_inj.mp lines, (List.cons.inj later).2⟩

theorem written_zero_toList (lines : List String) :
    (written 0 lines).toList = lines.flatMap fun line => line.toList ++ ['\n'] := by
  simp [written, String.toList_join, List.flatMap_map]

theorem written_inj {first second : List String} (firstLines : ∀ line ∈ first, IsLine line)
    (secondLines : ∀ line ∈ second, IsLine line) (same : written 0 first = written 0 second) :
    first = second := by
  have texts := congrArg String.toList same
  rw [written_zero_toList, written_zero_toList] at texts
  have ends := line_selfDelimiting.flatMap_inj (· = []) (by simp) firstLines secondLines
    rfl rfl (by rw [texts])
  exact ends.1

/-- A line that opens a declaration: its name stands between a word and a blank. -/
theorem opening_inj {word first second tail other : String} {rest otherRest : List Char}
    (firstBare : isBareName first = true) (secondBare : isBareName second = true)
    (begins : tail.toList = ' ' :: rest) (otherBegins : other.toList = ' ' :: otherRest)
    (same : word ++ first ++ tail = word ++ second ++ other) : first = second ∧ tail = other := by
  rw [String.append_assoc, String.append_assoc, String.append_right_inj] at same
  have texts := congrArg String.toList same
  rw [String.toList_append, String.toList_append, begins, otherBegins] at texts
  obtain ⟨names, tails⟩ := bareName_inj firstBare secondBare (by decide) (by decide) texts
  rw [← begins, ← otherBegins] at tails
  exact ⟨names, String.toList_inj.mp tails⟩

/-!
## Members and records
-/

theorem Member.line_inj {first second : Member} (firstFlat : first.ty.IsFlat)
    (secondFlat : second.ty.IsFlat) (same : first.line = second.line) : first = second := by
  have texts := congrArg String.toList same
  simp only [Member.line, String.toList_append, List.append_assoc] at texts
  obtain ⟨names, later⟩ := @propertyName_selfDelimiting first.name second.name
    (' ' :: (first.ty.render.toList ++ [';'])) (' ' :: (second.ty.render.toList ++ [';']))
    trivial trivial (by simpa using texts)
  obtain ⟨types, _⟩ := @Ty.render_selfDelimiting first.ty second.ty [] [] firstFlat secondFlat
    (by simpa using later)
  exact congrArg₂ Member.mk names types

/-- The declarations whose text can be read back: bare names, and flat types of the members. -/
def Declaration.IsPlain (declaration : Declaration) : Prop :=
  isBareName declaration.name = true ∧ ∀ member ∈ declaration.members, member.ty.IsFlat

theorem member_line_selfDelimiting (margin : String) :
    SelfDelimiting (fun member : Member => member.ty.IsFlat)
      fun member => [margin ++ (indentation 1 ++ member.line)] := by
  intro first second rest other firstFlat secondFlat same
  obtain ⟨lines, rest⟩ := List.cons.inj same
  rw [String.append_right_inj, String.append_right_inj] at lines
  exact ⟨Member.line_inj firstFlat secondFlat lines, rest⟩

theorem map_indented_lines (margin : String) (members : List Member) :
    (indented (members.map Member.line)).map (fun line => margin ++ line) =
      members.flatMap fun member => [margin ++ (indentation 1 ++ member.line)] := by
  rw [indented, List.map_map, List.map_map, List.map_eq_flatMap]
  rfl

theorem indentation_append_ne (line : String) {c : Char} (letter : c ≠ ' ') (rest : List Char) :
    (indentation 1 ++ line).toList ≠ c :: rest := by
  intro same
  have begins : (indentation 1 ++ line).toList = ' ' :: ' ' :: ' ' :: ' ' :: line.toList := by
    simp [indentation]
  rw [begins] at same
  exact letter (List.cons.inj same).1.symm

/-- The lines of a record with any margin. A line of a member begins with blanks, and so differs
from the closing line. -/
theorem lines_selfDelimiting (margin : String) :
    SelfDelimiting Declaration.IsPlain
      fun declaration => declaration.lines.map fun line => margin ++ line := by
  intro first second rest other ⟨firstBare, firstFlat⟩ ⟨secondBare, secondFlat⟩ same
  obtain ⟨firstName, firstMembers⟩ := first
  obtain ⟨secondName, secondMembers⟩ := second
  have opened : ∀ {tail otherTail : String} {later otherLater : List Char},
      tail.toList = ' ' :: later → otherTail.toList = ' ' :: otherLater →
      margin ++ ("export type " ++ firstName ++ tail) =
        margin ++ ("export type " ++ secondName ++ otherTail) →
      firstName = secondName ∧ tail = otherTail := fun begins otherBegins lines =>
    opening_inj firstBare secondBare begins otherBegins ((String.append_right_inj _).mp lines)
  cases firstMembers with
  | nil =>
      cases secondMembers with
      | nil =>
          obtain ⟨heads, rests⟩ := List.cons.inj same
          exact ⟨by rw [(opened rfl rfl heads).1], rests⟩
      | cons =>
          exact absurd (opened rfl rfl (List.cons.inj same).1).2 (by decide)
  | cons firstMember firstMore =>
      cases secondMembers with
      | nil =>
          exact absurd (opened rfl rfl (List.cons.inj same).1).2 (by decide)
      | cons secondMember secondMore =>
          obtain ⟨heads, bodies⟩ := List.cons.inj same
          have bodies : (indented ((firstMember :: firstMore).map Member.line) ++ ["\x7d;"]).map
                (fun line => margin ++ line) ++ rest =
              (indented ((secondMember :: secondMore).map Member.line) ++ ["\x7d;"]).map
                (fun line => margin ++ line) ++ other := bodies
          rw [List.map_append, List.map_append, map_indented_lines, map_indented_lines] at bodies
          have closed := (member_line_selfDelimiting margin).flatMap_inj
            (fun lines => ∃ later, lines = (margin ++ "\x7d;") :: later)
            (by
              rintro member later _ ⟨_, closing⟩
              have line := (String.append_right_inj _).mp (List.cons.inj closing).1
              exact indentation_append_ne _ (by decide) _ (congrArg String.toList line))
            firstFlat secondFlat ⟨rest, rfl⟩ ⟨other, rfl⟩
            (by simpa using bodies)
          obtain ⟨members, rests⟩ := closed
          exact ⟨congrArg₂ Declaration.mk (opened rfl rfl heads).1 members, (List.cons.inj rests).2⟩

theorem Declaration.lines_eq_cons (declaration : Declaration) :
    ∃ tail later, declaration.lines = ("export type " ++ tail) :: later := by
  unfold Declaration.lines
  cases declaration.members with
  | nil => exact ⟨_, _, congrArg (· :: _) String.append_assoc⟩
  | cons => exact ⟨_, _, congrArg (· :: _) String.append_assoc⟩

/-!
## Items and files
-/

def Item.IsPlain : Item → Prop
  | .record declaration => declaration.IsPlain
  | .nested name records => isBareName name = true ∧ ∀ record ∈ records, record.IsPlain

/-- A record and a namespace differ in the second word of their first line. -/
theorem record_lines_ne_nested {declaration : Declaration} {name : String}
    {records : List Declaration} (rest other : List String) :
    (Item.record declaration).lines ++ rest ≠ (Item.nested name records).lines ++ other := by
  obtain ⟨tail, later, begins⟩ := declaration.lines_eq_cons
  rw [Item.lines, Item.lines, begins]
  intro same
  have line := congrArg String.toList (List.cons.inj same).1
  simp at line

theorem item_lines_selfDelimiting : SelfDelimiting Item.IsPlain Item.lines := by
  intro first second rest other firstPlain secondPlain same
  cases first with
  | record declaration =>
      cases second with
      | record otherDeclaration =>
          obtain ⟨rfl, rests⟩ := lines_selfDelimiting "" firstPlain secondPlain
            (by simpa [Item.lines] using same)
          exact ⟨rfl, rests⟩
      | nested name records => exact absurd same (record_lines_ne_nested rest other)
  | nested name records =>
      cases second with
      | record declaration => exact absurd same.symm (record_lines_ne_nested other rest)
      | nested otherName others =>
          obtain ⟨heads, bodies⟩ := List.cons.inj same
          obtain ⟨rfl, _⟩ := opening_inj firstPlain.1 secondPlain.1 rfl rfl heads
          have closed := (lines_selfDelimiting (indentation 1)).flatMap_inj
            (fun lines => ∃ later, lines = "\x7d" :: later)
            (by
              rintro declaration later _ ⟨_, closing⟩
              obtain ⟨tail, more, begins⟩ := declaration.lines_eq_cons
              rw [begins] at closing
              have line := congrArg String.toList (List.cons.inj closing).1
              exact indentation_append_ne _ (by decide) _ line)
            firstPlain.2 secondPlain.2 ⟨rest, rfl⟩ ⟨other, rfl⟩
            (by simpa [indented, List.map_flatMap] using bodies)
          obtain ⟨rfl, rests⟩ := closed
          exact ⟨rfl, (List.cons.inj rests).2⟩

def DeclarationFile.IsPlain (file : DeclarationFile) : Prop :=
  ∀ item ∈ file.items, item.IsPlain

theorem DeclarationFile.lines_inj {first second : DeclarationFile} (firstPlain : first.IsPlain)
    (secondPlain : second.IsPlain) (same : first.lines = second.lines) : first = second := by
  have items := item_lines_selfDelimiting.flatMap_inj (· = [])
    (by
      rintro item rest _ ended
      cases item with
      | record declaration =>
          obtain ⟨_, _, begins⟩ := declaration.lines_eq_cons
          rw [Item.lines, begins] at ended
          cases ended
      | nested => cases ended)
    firstPlain secondPlain rfl rfl (congrArg (· ++ []) same)
  exact congrArg DeclarationFile.mk items.1

/-!
## Lines hold no line breaks
-/

theorem IsLine.append {first second : String} (firstLine : IsLine first)
    (secondLine : IsLine second) : IsLine (first ++ second) := by
  rw [IsLine, String.toList_append, List.mem_append, not_or]
  exact ⟨firstLine, secondLine⟩

theorem isLine_of_bare {name : String} (bare : isBareName name = true) : IsLine name :=
  fun member => absurd (isNameRest_of_mem_bare bare _ member) (by decide)

/-- The opening line of a block, its body one block further in, and its closing line. -/
theorem isLine_of_mem_block {opening closing : String} {body : List String}
    (openingLine : IsLine opening) (bodyLines : ∀ line ∈ body, IsLine line)
    (closingLine : IsLine closing) :
    ∀ line ∈ opening :: indented body ++ [closing], IsLine line := by
  intro line present
  rcases List.mem_append.mp present with before | closed
  · rcases List.mem_cons.mp before with rfl | within
    · exact openingLine
    · obtain ⟨inner, found, rfl⟩ := List.mem_map.mp within
      exact IsLine.append (by decide) (bodyLines inner found)
  · rw [List.mem_singleton.mp closed]
    exact closingLine

theorem Member.isLine_line {member : Member} (typeLine : IsLine member.ty.render) :
    IsLine member.line := by
  have name : IsLine (propertyName member.name) := propertyName_no_lineFeed member.name
  exact ((name.append (by decide)).append typeLine).append (by decide)

/-- Only the name of a record and the types of its members can break a line. -/
theorem Declaration.isLine {declaration : Declaration} (nameLine : IsLine declaration.name)
    (typeLines : ∀ member ∈ declaration.members, IsLine member.ty.render) :
    ∀ line ∈ declaration.lines, IsLine line := by
  obtain ⟨name, members⟩ := declaration
  have opening : IsLine ("export type " ++ name) := IsLine.append (by decide) nameLine
  cases members with
  | nil => exact List.forall_mem_singleton.mpr (opening.append (by decide))
  | cons member more =>
      have body : ∀ line ∈ (member :: more).map Member.line, IsLine line := by
        intro line present
        obtain ⟨source, found, rfl⟩ := List.mem_map.mp present
        exact source.isLine_line (typeLines source found)
      exact isLine_of_mem_block (opening.append (by decide)) body (by decide)

theorem Declaration.IsPlain.isLine {declaration : Declaration} (plain : declaration.IsPlain) :
    ∀ line ∈ declaration.lines, IsLine line :=
  declaration.isLine (isLine_of_bare plain.1) fun member found => (plain.2 member found).no_lineFeed

theorem Item.IsPlain.isLine {item : Item} (plain : item.IsPlain) :
    ∀ line ∈ item.lines, IsLine line := by
  cases item with
  | record declaration => exact Declaration.IsPlain.isLine plain
  | nested name records =>
      have opening : IsLine ("export namespace " ++ name) :=
        IsLine.append (by decide) (isLine_of_bare plain.1)
      have body : ∀ line ∈ records.flatMap Declaration.lines, IsLine line := by
        intro line present
        obtain ⟨record, found, within⟩ := List.mem_flatMap.mp present
        exact (plain.2 record found).isLine line within
      exact isLine_of_mem_block (opening.append (by decide)) body (by decide)

theorem DeclarationFile.IsPlain.isLine {file : DeclarationFile} (plain : file.IsPlain) :
    ∀ line ∈ file.lines, IsLine line := by
  intro line present
  obtain ⟨item, found, within⟩ := List.mem_flatMap.mp present
  exact (plain item found).isLine line within

/-- Two files of plain declarations have the same text only if they are the same. -/
theorem DeclarationFile.render_eq_render_iff {first second : DeclarationFile}
    (firstPlain : first.IsPlain) (secondPlain : second.IsPlain) :
    first.render = second.render ↔ first = second := by
  constructor
  · intro same
    rw [render_eq_written, render_eq_written] at same
    exact lines_inj firstPlain secondPlain (written_inj firstPlain.isLine secondPlain.isLine same)
  · rintro rfl
    rfl

/-- A member whose name spells the end of a record, and the record that ends there. -/
theorem DeclarationFile.render_ne_of_name_like_closing :
    let first : DeclarationFile :=
      ⟨[.nested "Schema" [⟨"A", [⟨"x: string;\n    \x7d;\n", .string⟩]⟩, ⟨"$", []⟩],
        .record ⟨"Schema", [⟨"a\\\"", .union [.reference "A", .null]⟩]⟩]⟩
    let second : DeclarationFile :=
      ⟨[.nested "Schema" [⟨"A", [⟨"x", .string⟩]⟩, ⟨"$", []⟩],
        .record ⟨"Schema", [⟨"a\\\"", .union [.reference "A", .null]⟩]⟩]⟩
    first.IsPlain ∧ second.IsPlain ∧ (first.render = second.render ↔ first = second) ∧
      first.render ≠ second.render := by
  intro first second
  have leaves : (Ty.union [.reference "A", .null]).IsFlat :=
    ⟨by decide, by simpa [Ty.IsLeaf] using (by decide : isBareName "A" = true)⟩
  have aggregate : Declaration.IsPlain ⟨"Schema", [⟨"a\\\"", .union [.reference "A", .null]⟩]⟩ :=
    ⟨by decide, by simpa using leaves⟩
  have plain : ∀ name : String, DeclarationFile.IsPlain
      ⟨[.nested "Schema" [⟨"A", [⟨name, .string⟩]⟩, ⟨"$", []⟩],
        .record ⟨"Schema", [⟨"a\\\"", .union [.reference "A", .null]⟩]⟩]⟩ := by
    intro name
    have records : ∀ record ∈ [(⟨"A", [⟨name, .string⟩]⟩ : Declaration), ⟨"$", []⟩],
        record.IsPlain :=
      List.forall_mem_cons.mpr
        ⟨⟨show isBareName "A" = true by decide, by simp [Ty.IsFlat, Ty.IsLeaf]⟩,
        List.forall_mem_singleton.mpr ⟨by decide, by simp⟩⟩
    exact List.forall_mem_cons.mpr ⟨⟨by decide, records⟩, List.forall_mem_singleton.mpr aggregate⟩
  have told := DeclarationFile.render_eq_render_iff (plain "x: string;\n    \x7d;\n") (plain "x")
  refine ⟨plain _, plain _, told, fun same => ?_⟩
  have files := told.mp same
  simp at files

end SnapshotTypes
