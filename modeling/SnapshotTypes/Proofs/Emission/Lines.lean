import SnapshotTypes.Emission

/-!
# Emitted lines

What a member, a record and an item add to the text, as lists of lines. An emitter only ever appends
whole lines at its depth, and every block it opens is closed again: its depth is unchanged after
each item.
-/

set_option autoImplicit false

namespace SnapshotTypes

/-!
## Lines and their text
-/

namespace Emitter

/-- Lines that stand one block further in. -/
def indented (lines : List String) : List String :=
  lines.map fun line => indentation 1 ++ line

def written (depth : Nat) (lines : List String) : String :=
  String.join (lines.map fun line => indentation depth ++ line ++ "\n")

def append (emitter : Emitter) (lines : List String) : Emitter :=
  { emitter with text := emitter.text ++ written emitter.depth lines }

@[simp] theorem append_text (emitter : Emitter) (lines : List String) :
    (emitter.append lines).text = emitter.text ++ written emitter.depth lines := rfl

@[simp] theorem indentation_zero : indentation 0 = "" := rfl

theorem indentation_succ (depth : Nat) :
    indentation (depth + 1) = indentation depth ++ indentation 1 := by
  unfold indentation
  rw [← String.ofList_append, List.replicate_append_replicate, Nat.mul_add]

theorem written_append (depth : Nat) (first second : List String) :
    written depth (first ++ second) = written depth first ++ written depth second := by
  rw [written, List.map_append, String.join_append, written, written]

theorem written_zero_singleton (line : String) : written 0 [line] = line ++ "\n" := by
  simp [written]

theorem written_indented (depth : Nat) (lines : List String) :
    written depth (indented lines) = written (depth + 1) lines := by
  unfold written indented
  rw [List.map_map]
  congr 1
  apply List.map_congr_left
  intro line _
  rw [Function.comp_apply, indentation_succ depth]
  simp only [String.append_assoc]

theorem line_eq_append (emitter : Emitter) (content : String) :
    emitter.line content = emitter.append [content] := by
  simp [line, append, written, String.append_assoc]

@[simp] theorem append_nil (emitter : Emitter) : emitter.append [] = emitter := by
  simp [append, written]

theorem append_append (emitter : Emitter) (first second : List String) :
    (emitter.append first).append second = emitter.append (first ++ second) := by
  simp only [append, written_append, String.append_assoc]

/-- A body that adds lines one block further in leaves the depth as it was. -/
theorem block_eq_append {emitter : Emitter} {body : Emitter → Emitter} {lines : List String}
    (adds : ∀ inner, body inner = inner.append lines) :
    emitter.block body = emitter.append (indented lines) := by
  simp [block, adds, append, written_indented]

theorem foldl_eq_append {α : Type} {step : Emitter → α → Emitter} {lines : α → List String}
    (adds : ∀ emitter value, step emitter value = emitter.append (lines value))
    (values : List α) (emitter : Emitter) :
    values.foldl step emitter = emitter.append (values.flatMap lines) := by
  induction values generalizing emitter with
  | nil => rw [List.foldl_nil, List.flatMap_nil, append_nil]
  | cons value rest ih =>
      rw [List.foldl_cons, ih, adds, append_append, List.flatMap_cons]

end Emitter

/-!
## Lines of declarations
-/

open Emitter (indented written)

def Member.line (member : Member) : String :=
  propertyName member.name ++ ": " ++ member.ty.render ++ ";"

/-- A record without members takes one line. -/
def Declaration.lines (declaration : Declaration) : List String :=
  match declaration.members with
  | [] => ["export type " ++ declaration.name ++ " = \x7b\x7d;"]
  | members =>
    ("export type " ++ declaration.name ++ " = \x7b") ::
      indented (members.map Member.line) ++ ["\x7d;"]

def Item.lines : Item → List String
  | .record declaration => declaration.lines
  | .nested name records =>
    ("export namespace " ++ name ++ " \x7b") ::
      indented (records.flatMap Declaration.lines) ++ ["\x7d"]

def DeclarationFile.lines (file : DeclarationFile) : List String :=
  file.items.flatMap Item.lines

namespace Emitter

theorem member_eq_append (emitter : Emitter) (member : Member) :
    emitter.member member = emitter.append [member.line] :=
  emitter.line_eq_append _

theorem record_eq_append (emitter : Emitter) (declaration : Declaration) :
    emitter.record declaration = emitter.append declaration.lines := by
  unfold record Declaration.lines
  cases declaration.members with
  | nil => exact emitter.line_eq_append _
  | cons first rest =>
      have body : ∀ inner : Emitter, (first :: rest).foldl Emitter.member inner =
          inner.append ((first :: rest).map Member.line) := by
        intro inner
        rw [foldl_eq_append member_eq_append, List.map_eq_flatMap]
      simp only [block_eq_append body, line_eq_append, append_append, List.cons_append,
        List.nil_append]

theorem item_eq_append (emitter : Emitter) (item : Item) :
    emitter.item item = emitter.append item.lines := by
  cases item with
  | record declaration => exact emitter.record_eq_append declaration
  | nested name records =>
      have body : ∀ inner : Emitter, records.foldl record inner =
          inner.append (records.flatMap Declaration.lines) :=
        foldl_eq_append record_eq_append records
      simp only [Emitter.item, Item.lines, block_eq_append body, line_eq_append, append_append,
        List.cons_append, List.nil_append]

/-- Emitting adds the lines of the file and changes nothing of what is there. -/
theorem emit_eq_append (emitter : Emitter) (file : DeclarationFile) :
    emitter.emit file = emitter.append file.lines :=
  foldl_eq_append item_eq_append file.items emitter

end Emitter

theorem DeclarationFile.render_eq_written (file : DeclarationFile) :
    file.render = written 0 file.lines := by
  rw [render, Emitter.emit_eq_append, Emitter.append_text]
  simp [Emitter.empty]

end SnapshotTypes
