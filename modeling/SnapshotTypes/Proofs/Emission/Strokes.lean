import SnapshotTypes.Proofs.Emission.Lines

/-!
# Strokes of an emitter

Emission as a sequence of least changes: a line is written, a block is opened or closed. Closing is
refused where no block is open. Every form that is emitted closes as many blocks as it opens, so
that its strokes are never refused, and no stroke touches the text that is there. The emitter itself
lowers its depth only at the end of a block, where it is the depth that the opening has reached.
-/

set_option autoImplicit false

namespace SnapshotTypes

inductive Stroke where
  | line (content : String)
  | opening
  | closing

namespace Emitter

def perform? (emitter : Emitter) : Stroke → Option Emitter
  | .line content => some (emitter.line content)
  | .opening => some { emitter with depth := emitter.depth + 1 }
  | .closing =>
    if emitter.depth = 0 then none else some { emitter with depth := emitter.depth - 1 }

def performAll? (emitter : Emitter) (strokes : List Stroke) : Option Emitter :=
  strokes.foldlM perform? emitter

theorem performAll?_cons (emitter : Emitter) (stroke : Stroke) (rest : List Stroke) :
    emitter.performAll? (stroke :: rest) =
      (emitter.perform? stroke).bind fun next => next.performAll? rest :=
  List.foldlM_cons

theorem performAll?_append (emitter : Emitter) (first second : List Stroke) :
    emitter.performAll? (first ++ second) =
      (emitter.performAll? first).bind fun next => next.performAll? second :=
  List.foldlM_append

/-!
## Text is only added
-/

theorem exists_text_of_perform? {emitter next : Emitter} {stroke : Stroke}
    (performed : emitter.perform? stroke = some next) :
    ∃ added, next.text = emitter.text ++ added := by
  cases stroke with
  | line content =>
      obtain rfl := Option.some.inj performed
      refine ⟨indentation emitter.depth ++ content ++ "\n", ?_⟩
      simp only [line, String.append_assoc]
  | opening =>
      obtain rfl := Option.some.inj performed
      exact ⟨"", String.append_empty.symm⟩
  | closing =>
      rw [perform?] at performed
      split at performed
      · cases performed
      · obtain rfl := Option.some.inj performed
        exact ⟨"", String.append_empty.symm⟩

theorem exists_text_of_performAll? {emitter last : Emitter} {strokes : List Stroke}
    (performed : emitter.performAll? strokes = some last) :
    ∃ added, last.text = emitter.text ++ added := by
  induction strokes generalizing emitter with
  | nil =>
      obtain rfl := Option.some.inj performed
      exact ⟨"", String.append_empty.symm⟩
  | cons stroke rest ih =>
      rw [performAll?_cons] at performed
      obtain ⟨next, first, performed⟩ := Option.bind_eq_some_iff.mp performed
      obtain ⟨added, same⟩ := exists_text_of_perform? first
      obtain ⟨more, sameMore⟩ := ih performed
      exact ⟨added ++ more, by rw [sameMore, same, String.append_assoc]⟩

/-- A run that is not refused can be stopped anywhere, and the text that is there then stays. -/
theorem exists_reached_of_performAll? {emitter last : Emitter} {strokes : List Stroke}
    (performed : emitter.performAll? strokes = some last) (count : Nat) :
    ∃ reached added later, emitter.performAll? (strokes.take count) = some reached ∧
      reached.text = emitter.text ++ added ∧ last.text = reached.text ++ later := by
  rw [← List.take_append_drop count strokes, performAll?_append] at performed
  obtain ⟨reached, before, after⟩ := Option.bind_eq_some_iff.mp performed
  obtain ⟨added, same⟩ := exists_text_of_performAll? before
  obtain ⟨later, sameLater⟩ := exists_text_of_performAll? after
  exact ⟨reached, added, later, before, same, sameLater⟩

end Emitter

/-!
## Strokes of the forms
-/

def Declaration.strokes (declaration : Declaration) : List Stroke :=
  match declaration.members with
  | [] => [.line ("export type " ++ declaration.name ++ " = \x7b\x7d;")]
  | members =>
    .line ("export type " ++ declaration.name ++ " = \x7b") ::
      (.opening :: (members.map fun member => .line member.line) ++ [.closing]) ++
        [.line "\x7d;"]

def Item.strokes : Item → List Stroke
  | .record declaration => declaration.strokes
  | .nested name records =>
    .line ("export namespace " ++ name ++ " \x7b") ::
      (.opening :: records.flatMap Declaration.strokes ++ [.closing]) ++ [.line "\x7d"]

def DeclarationFile.strokes (file : DeclarationFile) : List Stroke :=
  file.items.flatMap Item.strokes

/-- Strokes that an emitter of any depth performs in a given way, after which it is at its depth
again. -/
def Performs (strokes : List Stroke) (change : Emitter → Emitter) : Prop :=
  ∀ emitter : Emitter,
    emitter.performAll? strokes = some (change emitter) ∧ (change emitter).depth = emitter.depth

namespace Performs

variable {first second strokes : List Stroke} {change other : Emitter → Emitter}

theorem line (content : String) : Performs [.line content] fun emitter => emitter.line content :=
  fun _ => ⟨rfl, rfl⟩

theorem append (performs : Performs first change) (performsNext : Performs second other) :
    Performs (first ++ second) fun emitter => other (change emitter) := by
  intro emitter
  obtain ⟨performed, depth⟩ := performs emitter
  obtain ⟨performedNext, depthNext⟩ := performsNext (change emitter)
  rw [Emitter.performAll?_append, performed]
  exact ⟨performedNext, depthNext.trans depth⟩

/-- The body of a block ends at the depth at which it began, which is not zero. -/
theorem block (performs : Performs strokes change) :
    Performs (.opening :: strokes ++ [.closing]) fun emitter => emitter.block change := by
  intro emitter
  obtain ⟨performed, depth⟩ := performs { emitter with depth := emitter.depth + 1 }
  have closes : (change { emitter with depth := emitter.depth + 1 }).performAll? [.closing] =
      some (emitter.block change) := by
    rw [Emitter.performAll?_cons, Emitter.perform?, depth, if_neg (Nat.succ_ne_zero _)]
    simp only [Emitter.block, depth]
    rfl
  constructor
  · rw [List.cons_append, Emitter.performAll?_cons, Emitter.perform?, Option.bind_some,
      Emitter.performAll?_append, performed, Option.bind_some, closes]
  · simp only [Emitter.block, depth, Nat.add_sub_cancel]

theorem foldl {α : Type} {step : Emitter → α → Emitter} {strokesOf : α → List Stroke}
    (performs : ∀ value, Performs (strokesOf value) fun emitter => step emitter value)
    (values : List α) :
    Performs (values.flatMap strokesOf) fun emitter => values.foldl step emitter := by
  induction values with
  | nil => exact fun _ => ⟨rfl, rfl⟩
  | cons value rest ih => exact (performs value).append ih

end Performs

theorem Member.performs (member : Member) :
    Performs [.line member.line] fun emitter => emitter.member member :=
  .line member.line

theorem Declaration.performs (declaration : Declaration) :
    Performs declaration.strokes fun emitter => emitter.record declaration := by
  unfold Declaration.strokes Emitter.record
  cases declaration.members with
  | nil => exact .line _
  | cons first rest =>
      have body := Performs.foldl Member.performs (first :: rest)
      rw [← List.map_eq_flatMap] at body
      exact ((Performs.line _).append body.block).append (.line _)

theorem Item.performs (item : Item) : Performs item.strokes fun emitter => emitter.item item := by
  cases item with
  | record declaration => exact declaration.performs
  | nested name records =>
      have body := Performs.foldl Declaration.performs records
      exact ((Performs.line _).append body.block).append (.line _)

theorem DeclarationFile.performs (file : DeclarationFile) :
    Performs file.strokes fun emitter => emitter.emit file :=
  .foldl Item.performs file.items

/-!
## Files one after the other
-/

theorem Emitter.foldl_emit_text (files : List DeclarationFile) :
    (files.foldl Emitter.emit .empty).text = written 0 (files.flatMap DeclarationFile.lines) := by
  rw [foldl_eq_append emit_eq_append, append_text]
  exact String.empty_append

theorem DeclarationFile.join_render (files : List DeclarationFile) :
    String.join (files.map render) = Emitter.written 0 (files.flatMap lines) := by
  induction files with
  | nil => rfl
  | cons file rest ih =>
      rw [List.map_cons, List.flatMap_cons, Emitter.written_append, String.join_cons, ih,
        render_eq_written]

theorem DeclarationFile.render_flatMap_items (files : List DeclarationFile) :
    (⟨files.flatMap items⟩ : DeclarationFile).render =
      Emitter.written 0 (files.flatMap lines) := by
  rw [render_eq_written, lines, List.flatMap_assoc]
  rfl

/-- Emitting a file leaves the depth as it was, closes no block that is not open and changes no text
that is there. The two bodies that stand in a block, the members of a record and the records of a
namespace, end one deeper than the block began, so that closing it takes the depth from above zero.
Files that are emitted one after the other give their texts one after the other, which is the text
of all their items in one file. -/
theorem DeclarationFile.emission_compositional :
    (∀ (emitter : Emitter) (file : DeclarationFile),
      (emitter.emit file).depth = emitter.depth ∧
        emitter.performAll? file.strokes = some (emitter.emit file) ∧
        ∀ count, ∃ reached added later,
          emitter.performAll? (file.strokes.take count) = some reached ∧
            reached.text = emitter.text ++ added ∧
            (emitter.emit file).text = reached.text ++ later) ∧
      (∀ (opened : Emitter) (members : List Member),
        (members.foldl Emitter.member { opened with depth := opened.depth + 1 }).depth =
          opened.depth + 1) ∧
      (∀ (opened : Emitter) (records : List Declaration),
        (records.foldl Emitter.record { opened with depth := opened.depth + 1 }).depth =
          opened.depth + 1) ∧
      ∀ (files : List DeclarationFile) (count : Nat),
        ((files.take count).foldl Emitter.emit .empty).text =
            String.join ((files.take count).map render) ∧
          String.join ((files.take count).map render) =
            (⟨(files.take count).flatMap items⟩ : DeclarationFile).render := by
  refine ⟨?_, ?_, ?_, ?_⟩
  · intro emitter file
    obtain ⟨performed, depth⟩ := file.performs emitter
    exact ⟨depth, performed, Emitter.exists_reached_of_performAll? performed⟩
  · intro opened members
    exact (Performs.foldl Member.performs members _).right
  · intro opened records
    exact (Performs.foldl Declaration.performs records _).right
  · intro files count
    rw [Emitter.foldl_emit_text, join_render, render_flatMap_items]
    exact ⟨rfl, rfl⟩

end SnapshotTypes
