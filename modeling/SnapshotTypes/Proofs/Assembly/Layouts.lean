import SnapshotTypes.Proofs.Emission.Unambiguous
import SnapshotTypes.Proofs.Assembly.Translation
import SnapshotTypes.Proofs.TypeName.Characters

/-!
# The two layouts

The records of a snapshot are the same in either layout, and their text differs by a margin alone.
This needs collection names that hold no line feed, since they come into type names as they are;
names of fields are quoted where they would break a line.
-/

set_option autoImplicit false

namespace SnapshotTypes

/-!
## Text in a margin

What it means for a text to be moved in, said of its characters and not of the way it is written.
A block one further in is the text of the block moved in, since no line of it holds a line feed.
-/

namespace Text

/-- A margin before each line of a text. A line begins where `atStart` says so and behind every line
feed; behind the last line feed there is no line. -/
def marginBefore (margin : List Char) (atStart : Bool) : List Char → List Char
  | [] => []
  | c :: rest =>
    let later := c :: marginBefore margin (c == '\n') rest
    if atStart then margin ++ later else later

/-- A text with four blanks at the start of each of its lines. -/
def movedIn (text : String) : String :=
  String.ofList (marginBefore "    ".toList true text.toList)

theorem marginBefore_append_lineFeed {margin line : List Char} (plain : '\n' ∉ line)
    (rest : List Char) :
    marginBefore margin false (line ++ '\n' :: rest) =
      line ++ '\n' :: marginBefore margin true rest := by
  induction line with
  | nil => rfl
  | cons c line ih =>
      have other : c ≠ '\n' := fun same => plain (same ▸ List.mem_cons_self)
      have later : '\n' ∉ line := fun member => plain (List.mem_cons_of_mem c member)
      have going : (c == '\n') = false := beq_eq_false_iff_ne.mpr other
      simp only [List.cons_append, marginBefore, going, ih later, Bool.false_eq_true, ↓reduceIte]

/-- The margin stands before the first line, and the rest is treated alike. -/
theorem marginBefore_line {margin line : List Char} (plain : '\n' ∉ line) (rest : List Char) :
    marginBefore margin true (line ++ '\n' :: rest) =
      margin ++ (line ++ '\n' :: marginBefore margin true rest) := by
  rw [← marginBefore_append_lineFeed plain]
  cases line <;> rfl

theorem marginBefore_lines {margin : List Char} {lines : List String}
    (plain : ∀ line ∈ lines, IsLine line) :
    marginBefore margin true (lines.flatMap fun line => line.toList ++ ['\n']) =
      lines.flatMap fun line => margin ++ (line.toList ++ ['\n']) := by
  induction lines with
  | nil => rfl
  | cons line rest ih =>
      obtain ⟨here, later⟩ := List.forall_mem_cons.mp plain
      have first := @marginBefore_line margin _ here
        (rest.flatMap fun line => line.toList ++ ['\n'])
      rw [ih later] at first
      simpa using first

/-- Lines one block further in are their text moved in. -/
theorem movedIn_written {lines : List String} (plain : ∀ line ∈ lines, IsLine line) :
    movedIn (Emitter.written 0 lines) = Emitter.written 0 (Emitter.indented lines) := by
  apply String.toList_inj.mp
  rw [movedIn, String.toList_ofList, written_zero_toList, written_zero_toList,
    marginBefore_lines plain, Emitter.indented, List.flatMap_map]
  simp [Emitter.indentation]

example : movedIn "a\n\n  b\n" = "    a\n    \n      b\n" := by decide

end Text

open Emitter (indented written)

/-!
## Lines of records
-/

theorem FieldType.isLeaf_of_ty? {type : FieldType} {base : Ty} (typed : type.ty? = some base) :
    base.IsLeaf := by
  have date : dateType.IsLeaf := ⟨by decide, by decide⟩
  cases type <;> cases typed <;> first | exact trivial | exact date

/-- Members of records have a base type, or the union of one with null. -/
theorem Field.Becomes.isFlat {field : Field} {member : Member} (becomes : field.Becomes member) :
    member.ty.IsFlat := by
  obtain ⟨base, typed, same⟩ := Field.ty_eq_ok_iff.mp becomes.2
  have leaf := FieldType.isLeaf_of_ty? typed
  rw [same]
  cases field.isNullable with
  | true =>
      have arms : ∀ arm ∈ [base, .null], arm.IsLeaf :=
        List.forall_mem_cons.mpr ⟨leaf, List.forall_mem_singleton.mpr trivial⟩
      exact ⟨Nat.le_refl 2, arms⟩
  | false => exact leaf.isFlat

theorem Snapshot.IsRecordOf.isLine {snapshot : Snapshot} {collection : String}
    {record : Declaration} (belongs : snapshot.IsRecordOf collection record)
    (plain : IsLine collection) : ∀ line ∈ record.lines, IsLine line := by
  have name : IsLine record.name := by
    rw [belongs.name]
    exact typeName_no_lineFeed plain
  refine Declaration.isLine name fun member present => ?_
  obtain ⟨field, _, becomes⟩ := belongs.exists_field present
  exact becomes.isFlat.no_lineFeed

/-!
## Text of files
-/

namespace DeclarationFile

theorem render_append (first second : List Item) :
    (⟨first ++ second⟩ : DeclarationFile).render =
      (⟨first⟩ : DeclarationFile).render ++ (⟨second⟩ : DeclarationFile).render := by
  simp only [render_eq_written, lines, List.flatMap_append, Emitter.written_append]

theorem render_records (records : List Declaration) :
    (⟨records.map .record⟩ : DeclarationFile).render =
      written 0 (records.flatMap Declaration.lines) := by
  rw [render_eq_written, lines, List.flatMap_map]
  rfl

/-- A namespace is its two own lines, and between them the text of its records moved in. -/
theorem render_nested {records : List Declaration}
    (plain : ∀ record ∈ records, ∀ line ∈ record.lines, IsLine line) (name : String) :
    (⟨[.nested name records]⟩ : DeclarationFile).render =
      "export namespace " ++ name ++ " \x7b\n" ++
        Text.movedIn (⟨records.map .record⟩ : DeclarationFile).render ++ "\x7d\n" := by
  have body : ∀ line ∈ records.flatMap Declaration.lines, IsLine line := by
    intro line present
    obtain ⟨record, found, within⟩ := List.mem_flatMap.mp present
    exact plain record found line within
  have split : (⟨[.nested name records]⟩ : DeclarationFile).lines =
      ["export namespace " ++ name ++ " \x7b"] ++ indented (records.flatMap Declaration.lines) ++
        ["\x7d"] := by
    simp [lines, Item.lines]
  rw [render_records, Text.movedIn_written body, render_eq_written, split, Emitter.written_append,
    Emitter.written_append, Emitter.written_zero_singleton, Emitter.written_zero_singleton]
  have opening : "export namespace " ++ name ++ " \x7b" ++ "\n" =
      "export namespace " ++ name ++ " \x7b\n" := String.append_assoc
  rw [opening]
  rfl

end DeclarationFile

/-- In the nested layout the text of the records is moved in, between the two lines of their
namespace. The aggregate, its text and the log are those of the other layout. -/
theorem Snapshot.layouts_differ_by_margin {snapshot : Snapshot} {layout : Layout}
    {file : DeclarationFile} (assembled : (assemble snapshot layout).2 = .ok file)
    (plain : ∀ collection ∈ snapshot.collections, '\n' ∉ collection.toList) :
    ∃ log flat nested aggregate body last,
      assemble snapshot .topLevel = (log, .ok flat) ∧
      assemble snapshot .nested = (log, .ok nested) ∧
      aggregate = aggregateOf snapshot.collections.eraseDups ∧
      flat.items.getLast? = some (.record aggregate) ∧
      nested.items.getLast? = some (.record aggregate) ∧
      last = (⟨[.record aggregate]⟩ : DeclarationFile).render ∧
      flat.render = body ++ last ∧
      nested.render =
        "export namespace Schema \x7b\n" ++ Text.movedIn body ++ "\x7d\n" ++ last := by
  obtain ⟨table, tabulated, rfl⟩ := assemble_result_eq_ok_iff.mp assembled
  have lines : ∀ record ∈ KeyedList.values table, ∀ line ∈ record.lines, IsLine line := by
    intro record present
    obtain ⟨⟨collection, stored⟩, entry, rfl⟩ := List.mem_map.mp present
    have listed : collection ∈ snapshot.collections := by
      rw [← List.mem_eraseDups, ← tabulated.keys_eq]
      exact List.mem_map_of_mem entry
    exact (record_eq_ok_iff.mp (tabulated.recorded entry)).isLine (plain collection listed)
  have flat := DeclarationFile.render_append ((KeyedList.values table).map .record)
    [.record table.aggregate]
  have nested := DeclarationFile.render_append [.nested "Schema" (KeyedList.values table)]
    [.record table.aggregate]
  rw [DeclarationFile.render_nested lines] at nested
  exact ⟨_, _, _, table.aggregate, _, _, assemble_of_tabulates tabulated .topLevel,
    assemble_of_tabulates tabulated .nested, tabulated.aggregate_eq, by simp [RecordTable.arrange],
    by simp [RecordTable.arrange], rfl, flat, nested⟩

/-- A record without members beside one whose property would break its line. -/
theorem Snapshot.layouts_of_property_with_lineFeed :
    let snapshot : Snapshot := ⟨["tags", "user_roles", "tags"],
      [⟨"user_roles", "a;\n\x7d", .uuid, none⟩, ⟨"ghosts", "boo", .binary, none⟩,
        ⟨"user_roles", "since", .date, some ⟨some true⟩⟩]⟩
    ∃ file, (assemble snapshot .topLevel).2 = .ok file ∧
      (∀ collection ∈ snapshot.collections, '\n' ∉ collection.toList) ∧
      ∃ log flat nested body last,
        assemble snapshot .topLevel = (log, .ok flat) ∧
        assemble snapshot .nested = (log, .ok nested) ∧
        flat.render = body ++ last ∧
        nested.render =
          "export namespace Schema \x7b\n" ++ Text.movedIn body ++ "\x7d\n" ++ last := by
  intro snapshot
  have assembled : (assemble snapshot .topLevel).2 = .ok _ := rfl
  have plain : ∀ collection ∈ snapshot.collections, '\n' ∉ collection.toList := by decide
  obtain ⟨log, flat, nested, _, body, last, top, inner, _, _, _, _, flatText, nestedText⟩ :=
    layouts_differ_by_margin assembled plain
  exact ⟨_, assembled, plain, log, flat, nested, body, last, top, inner, flatText, nestedText⟩

end SnapshotTypes
