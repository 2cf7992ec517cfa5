import SnapshotTypes.Proofs.Assembly.Dependence
import SnapshotTypes.Proofs.Assembly.Layouts
import SnapshotTypes.Proofs.Text.Split

/-!
# Names of fields

A field name has no bearing on anything but its own member line. Two snapshots that differ in field
names fail alike or give texts that agree line by line, up to the property names in member lines:
whatever a name holds, it neither ends its line nor adds one.
-/

set_option autoImplicit false

namespace SnapshotTypes

open Emitter (indentation indented written)

/-!
## Lines of a text
-/

namespace Text

/-- The parts of a text between line feeds. Behind a last line feed there is an empty one. -/
def lines (text : String) : List String :=
  (split '\n' text.toList).map String.ofList

theorem lines_of_isLine {line : String} (isLine : IsLine line) : lines line = [line] := by
  rw [lines, split_of_not_mem isLine, List.map_singleton, String.ofList_toList]

theorem lines_written_cons (line : String) (rest : List String) :
    lines (written 0 (line :: rest)) = lines line ++ lines (written 0 rest) := by
  have spelled : (written 0 (line :: rest)).toList =
      line.toList ++ '\n' :: (written 0 rest).toList := by
    simp [written_zero_toList]
  rw [lines, spelled, split_append_cons, List.map_append, lines, lines]

end Text

/-!
## Fields with other names
-/

/-- Fields that differ in their names at most. -/
structure Field.Renames (field other : Field) : Prop where
  collection : field.collection = other.collection
  type : field.type = other.type
  nullable : field.isNullable = other.isNullable

theorem Field.Renames.ty_eq {field other : Field} (renames : field.Renames other) :
    field.ty = other.ty := by
  rw [Field.ty, Field.ty, renames.type, renames.nullable]

/-- The failure of a list of fields is told by their types. -/
theorem membersOf_eq_error_of_renames {fields others : List Field} {failure : UnsupportedType}
    (renames : List.Forall₂ Field.Renames fields others)
    (failed : membersOf fields = .error failure) : membersOf others = .error failure := by
  induction renames with
  | nil => cases failed
  | @cons field other rest otherRest head _ ih =>
      rw [membersOf, Field.member, head.ty_eq] at failed
      rw [membersOf, Field.member]
      cases typed : other.ty with
      | error first =>
          rw [typed] at failed
          exact failed
      | ok ty =>
          simp only [typed] at failed ⊢
          cases result : membersOf rest with
          | error first =>
              rw [result] at failed
              obtain rfl := Except.error.inj failed
              rw [ih result]
          | ok members =>
              rw [result] at failed
              cases failed

/-- Lines of two texts that are equal, or the member line of a field under two names. -/
inductive RenamedLine (pairs : List (Field × Field)) (depth : Nat) : String → String → Prop
  | same (line : String) : RenamedLine pairs depth line line
  | member {field other : Field} {ty : Ty} :
      (field, other) ∈ pairs → field.ty = .ok ty →
      RenamedLine pairs depth (indentation depth ++ Member.line ⟨field.name, ty⟩)
        (indentation depth ++ Member.line ⟨other.name, ty⟩)

variable {pairs : List (Field × Field)} {depth : Nat}

theorem forall₂_renamedLine_self (lines : List String) :
    List.Forall₂ (RenamedLine pairs depth) lines lines :=
  List.forall₂_same.mpr fun line _ => .same line

theorem forall₂_renamedLine_indented {lines others : List String}
    (renamed : List.Forall₂ (RenamedLine pairs depth) lines others) :
    List.Forall₂ (RenamedLine pairs (depth + 1)) (indented lines) (indented others) := by
  rw [indented, indented, List.forall₂_map_left_iff, List.forall₂_map_right_iff]
  refine renamed.imp ?_
  intro line other related
  cases related with
  | same => exact .same _
  | member listed typed =>
      have deeper : indentation 1 ++ indentation depth = indentation (depth + 1) := by
        simp only [indentation, ← String.ofList_append, List.replicate_append_replicate]
        congr 2
        omega
      rw [← String.append_assoc, ← String.append_assoc, deeper]
      exact .member listed typed

theorem isLine_indentation (depth : Nat) : IsLine (indentation depth) := by
  intro member
  rw [indentation, String.toList_ofList] at member
  exact absurd (List.eq_of_mem_replicate member) (by decide)

/-- A member line is one line of the text, whatever the name of its field. -/
theorem isLine_memberLine {field : Field} {ty : Ty} (typed : field.ty = .ok ty) (depth : Nat)
    (name : String) : IsLine (indentation depth ++ Member.line ⟨name, ty⟩) := by
  have becomes : field.Becomes ⟨field.name, ty⟩ := ⟨rfl, typed⟩
  have plain : IsLine ty.render := becomes.isFlat.no_lineFeed
  exact (isLine_indentation depth).append (Member.isLine_line plain)

theorem forall₂_renamedLine_written {lines others : List String}
    (renamed : List.Forall₂ (RenamedLine pairs depth) lines others) :
    List.Forall₂ (RenamedLine pairs depth) (Text.lines (written 0 lines))
      (Text.lines (written 0 others)) := by
  induction renamed with
  | nil => exact forall₂_renamedLine_self _
  | @cons line other rest otherRest head _ ih =>
      rw [Text.lines_written_cons, Text.lines_written_cons]
      refine List.rel_append ?_ ih
      cases head with
      | same => exact forall₂_renamedLine_self _
      | @member field other ty listed typed =>
          rw [Text.lines_of_isLine (isLine_memberLine typed depth field.name),
            Text.lines_of_isLine (isLine_memberLine typed depth other.name)]
          exact .cons (.member listed typed) .nil

/-!
## Records
-/

/-- Members of a pair of fields. -/
def RenamedMember (pairs : List (Field × Field)) (member other : Member) : Prop :=
  ∃ field renamed, (field, renamed) ∈ pairs ∧ field.Renames renamed ∧ field.Becomes member ∧
    renamed.Becomes other

structure RenamedRecord (pairs : List (Field × Field)) (record other : Declaration) : Prop where
  name : record.name = other.name
  members : List.Forall₂ (RenamedMember pairs) record.members other.members

theorem RenamedMember.line {member other : Member} (renamed : RenamedMember pairs member other) :
    RenamedLine pairs 1 (indentation 1 ++ member.line) (indentation 1 ++ other.line) := by
  obtain ⟨field, renamedField, listed, renames, becomes, becomesOther⟩ := renamed
  obtain ⟨name, ty⟩ := member
  obtain ⟨otherName, otherTy⟩ := other
  obtain ⟨rfl, typed⟩ := becomes
  obtain ⟨rfl, typedOther⟩ := becomesOther
  rw [← renames.ty_eq, typed, Except.ok.injEq] at typedOther
  obtain rfl := typedOther
  exact .member listed typed

theorem RenamedRecord.lines {record other : Declaration}
    (renamed : RenamedRecord pairs record other) :
    List.Forall₂ (RenamedLine pairs 1) record.lines other.lines := by
  obtain ⟨name, members⟩ := record
  obtain ⟨otherName, others⟩ := other
  obtain ⟨sameName, matched⟩ := renamed
  dsimp only at sameName matched
  subst sameName
  cases matched with
  | nil => exact forall₂_renamedLine_self _
  | cons head tail =>
      refine .cons (.same _) (List.rel_append ?_ (forall₂_renamedLine_self _))
      rw [indented, indented, List.map_map, List.map_map, List.forall₂_map_left_iff,
        List.forall₂_map_right_iff]
      exact .cons head.line (tail.imp fun _ _ renamed => renamed.line)

/-- The depth of the member lines of the collections' records. -/
def Layout.memberDepth : Layout → Nat
  | topLevel => 1
  | nested => 2

theorem forall₂_renamedLine_itemsFor {records others : List Declaration}
    (renamed : List.Forall₂ (RenamedRecord pairs) records others) (aggregate : Declaration)
    (layout : Layout) :
    List.Forall₂ (RenamedLine pairs layout.memberDepth)
      ((itemsFor records aggregate layout).flatMap Item.lines)
      ((itemsFor others aggregate layout).flatMap Item.lines) := by
  have bodies : List.Forall₂ (RenamedLine pairs 1) (records.flatMap Declaration.lines)
      (others.flatMap Declaration.lines) :=
    List.rel_flatMap renamed fun _ _ renamed => renamed.lines
  cases layout with
  | topLevel =>
      rw [itemsFor, itemsFor, List.flatMap_append, List.flatMap_append, List.flatMap_map,
        List.flatMap_map]
      exact List.rel_append bodies (forall₂_renamedLine_self _)
  | nested =>
      rw [itemsFor, itemsFor, List.flatMap_cons, List.flatMap_cons]
      refine List.rel_append ?_ (forall₂_renamedLine_self _)
      exact .cons (.same _)
        (List.rel_append (forall₂_renamedLine_indented bodies) (forall₂_renamedLine_self _))

theorem forall₂_renamedMember {fields others : List Field} {members otherMembers : List Member}
    (renames : List.Forall₂ (fun field other => (field, other) ∈ pairs ∧ field.Renames other)
      fields others)
    (become : List.Forall₂ Field.Becomes fields members)
    (becomeOther : List.Forall₂ Field.Becomes others otherMembers) :
    List.Forall₂ (RenamedMember pairs) members otherMembers := by
  induction renames generalizing members otherMembers with
  | nil =>
      cases become
      cases becomeOther
      exact .nil
  | cons head _ ih =>
      cases become with
      | cons becomes become =>
          cases becomeOther with
          | cons becomesOther becomeOther =>
              exact .cons ⟨_, _, head.1, head.2, becomes, becomesOther⟩ (ih become becomeOther)

/-!
## Snapshots
-/

namespace Snapshot

variable {snapshot other : Snapshot}

theorem forall₂_fieldsOf (renames : List.Forall₂ Field.Renames snapshot.fields other.fields)
    (collection : String) :
    List.Forall₂ (fun field renamed =>
        (field, renamed) ∈ snapshot.fields.zip other.fields ∧ field.Renames renamed)
      (snapshot.fieldsOf collection) (other.fieldsOf collection) := by
  have paired : List.Forall₂ (fun field renamed =>
      (field, renamed) ∈ snapshot.fields.zip other.fields ∧ field.Renames renamed)
      snapshot.fields other.fields :=
    List.forall₂_iff_zip.mpr
      ⟨renames.length_eq, fun listed => ⟨listed, List.forall₂_zip renames listed⟩⟩
  refine List.rel_filter ?_ paired
  intro field renamed pair
  simp only [decide_eq_true_eq, pair.2.collection]

theorem failure?_of_renames (renames : List.Forall₂ Field.Renames snapshot.fields other.fields)
    {collection : String} {failure : UnsupportedType}
    (failed : snapshot.failure? collection = some failure) :
    other.failure? collection = some failure := by
  rw [failure?_eq_some_iff, record] at failed ⊢
  have own : List.Forall₂ Field.Renames (snapshot.fieldsOf collection)
      (other.fieldsOf collection) :=
    (forall₂_fieldsOf renames collection).imp fun _ _ pair => pair.2
  cases result : membersOf (snapshot.fieldsOf collection) with
  | error first =>
      rw [result] at failed
      obtain rfl := Except.error.inj failed
      rw [membersOf_eq_error_of_renames own result]
  | ok members =>
      rw [result] at failed
      cases failed

theorem failure?_eq_of_renames (renames : List.Forall₂ Field.Renames snapshot.fields other.fields) :
    snapshot.failure? = other.failure? := by
  have back : List.Forall₂ Field.Renames other.fields snapshot.fields :=
    (renames.imp fun _ _ pair => ⟨pair.collection.symm, pair.type.symm, pair.nullable.symm⟩).flip
  funext collection
  apply Option.ext
  intro failure
  exact ⟨failure?_of_renames renames, failure?_of_renames back⟩

theorem forall₂_renamedRecord {names : List String} {records others : List Declaration}
    (renames : List.Forall₂ Field.Renames snapshot.fields other.fields)
    (belong : List.Forall₂ snapshot.IsRecordOf names records)
    (belongOther : List.Forall₂ other.IsRecordOf names others) :
    List.Forall₂ (RenamedRecord (snapshot.fields.zip other.fields)) records others := by
  induction belong generalizing others with
  | nil =>
      cases belongOther
      exact .nil
  | @cons name _ _ _ head _ ih =>
      cases belongOther with
      | cons headOther tailOther =>
          refine .cons ⟨head.name.trans headOther.name.symm, ?_⟩ (ih tailOther)
          exact forall₂_renamedMember (forall₂_fieldsOf renames name) head.members headOther.members

/-- Snapshots that differ in field names fail with the same type, or give texts of equally many
lines that are equal one by one, save that the member line of a field has the name of its own. -/
theorem field_names_keep_structure {snapshot other : Snapshot}
    (listed : snapshot.collections = other.collections)
    (renames : List.Forall₂ Field.Renames snapshot.fields other.fields) (layout : Layout) :
    (∃ failure, (assemble snapshot layout).2 = .error failure ∧
        (assemble other layout).2 = .error failure) ∨
      ∃ file renamed, (assemble snapshot layout).2 = .ok file ∧
        (assemble other layout).2 = .ok renamed ∧
        List.Forall₂ (RenamedLine (snapshot.fields.zip other.fields) layout.memberDepth)
          (Text.lines file.render) (Text.lines renamed.render) := by
  have failures := failure?_eq_of_renames renames
  cases result : (assemble snapshot layout).2 with
  | error failure =>
      refine .inl ⟨failure, rfl, ?_⟩
      rw [assemble_result_eq_error_iff] at result ⊢
      rw [← listed, ← failures, result]
  | ok file =>
      cases resultOther : (assemble other layout).2 with
      | error failure =>
          rw [assemble_result_eq_error_iff, ← listed, ← failures] at resultOther
          have failed := @assemble_result_eq_error_iff snapshot layout failure |>.mpr resultOther
          rw [result] at failed
          cases failed
      | ok renamed =>
          refine .inr ⟨file, renamed, rfl, rfl, ?_⟩
          obtain ⟨table, tabulated, rfl⟩ := assemble_result_eq_ok_iff.mp result
          obtain ⟨tableOther, tabulatedOther, rfl⟩ := assemble_result_eq_ok_iff.mp resultOther
          rw [← listed] at tabulatedOther
          have records := forall₂_renamedRecord renames tabulated.values_isRecordOf
            tabulatedOther.values_isRecordOf
          rw [DeclarationFile.render_eq_written, DeclarationFile.render_eq_written]
          apply forall₂_renamedLine_written
          rw [DeclarationFile.lines, DeclarationFile.lines, tabulated.arrange_items,
            tabulatedOther.arrange_items]
          exact forall₂_renamedLine_itemsFor records _ layout

/-- A name that looks like the end of a record and a comment, against a harmless one. The collection
breaks its own lines in both texts. -/
theorem field_name_like_closing_keeps_structure :
    let fieldNamed (name : String) : Field := ⟨"a\nb", name, .date, some ⟨some true⟩⟩
    let snapshot : Snapshot := ⟨["a\nb"], [fieldNamed "x\n\x7d;\n/* \"", fieldNamed "y"]⟩
    let other : Snapshot := ⟨["a\nb"], [fieldNamed "x", fieldNamed "y\n"]⟩
    snapshot.collections = other.collections ∧
      List.Forall₂ Field.Renames snapshot.fields other.fields ∧
      ∃ file renamed, (assemble snapshot .nested).2 = .ok file ∧
        (assemble other .nested).2 = .ok renamed ∧
        List.Forall₂ (RenamedLine (snapshot.fields.zip other.fields) 2) (Text.lines file.render)
          (Text.lines renamed.render) := by
  intro fieldNamed snapshot other
  have renames : List.Forall₂ Field.Renames snapshot.fields other.fields :=
    .cons ⟨rfl, rfl, rfl⟩ (.cons ⟨rfl, rfl, rfl⟩ .nil)
  refine ⟨rfl, renames, ?_⟩
  rcases @field_names_keep_structure snapshot other rfl renames .nested with
    ⟨failure, failed, _⟩ | kept
  · have assembled : (assemble snapshot .nested).2 = .ok _ := rfl
    rw [assembled] at failed
    cases failed
  · exact kept

end Snapshot

end SnapshotTypes
