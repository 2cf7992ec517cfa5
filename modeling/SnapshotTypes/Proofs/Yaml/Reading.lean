import SnapshotTypes.Proofs.Yaml.Nodes
import SnapshotTypes.Yaml.Reading

/-!
# Reading the nodes of a value

A reader takes a value if it reads all nodes of it, whatever follows them.
-/

set_option autoImplicit false

namespace SnapshotTypes.Yaml

open Json (Tree)
open Document (Reader RecordShape Slot)

def Takes {α : Type} (reader : YamlReader α) (tree : Tree) (value : α) : Prop :=
  ∀ nodes rest : Nodes, nodes.map Prod.fst = nodesOf tree →
    reader (nodes ++ rest) = .ok (value, rest)

variable {document : NodeStream} {α β δ : Type} {reader : YamlReader α} {tree : Tree} {value : α}

theorem Takes.map (takes : Takes reader tree value) (change : α → β) :
    Takes (reader.map change) tree (change value) := by
  intro nodes rest same
  rw [Reader.map, takes nodes rest same]

theorem exists_single {nodes : Nodes} {node : Node} (same : nodes.map Prod.fst = [node]) :
    ∃ mark, nodes = [(node, mark)] := by
  obtain ⟨⟨first, mark⟩, others, rfl, rfl, nothing⟩ := List.map_eq_cons_iff.mp same
  obtain rfl := List.map_eq_nil_iff.mp nothing
  exact ⟨mark, rfl⟩

theorem exists_enclosed {nodes : Nodes} {first last : Node} {inner : List Node}
    (same : nodes.map Prod.fst = first :: (inner ++ [last])) :
    ∃ mark body place, nodes = (first, mark) :: (body ++ [(last, place)]) ∧
      body.map Prod.fst = inner := by
  obtain ⟨⟨node, mark⟩, others, rfl, rfl, sameOthers⟩ := List.map_eq_cons_iff.mp same
  obtain ⟨body, ending, rfl, sameBody, sameEnding⟩ := List.map_eq_append_iff.mp sameOthers
  obtain ⟨place, rfl⟩ := exists_single sameEnding
  exact ⟨mark, body, place, rfl, sameBody⟩

/-!
## Scalars
-/

theorem takes_text (text expected : String) :
    Takes (readTextAs document expected) (.text text) text := by
  intro nodes rest same
  rw [nodesOf] at same
  obtain ⟨mark, rfl⟩ := exists_single same
  simp [readTextAs, followed]

theorem boolean?_toString (value : Bool) : boolean? (toString value) = some value := by
  cases value <;> rfl

theorem takes_flag (value : Bool) : Takes (readFlag document) (.boolean value) value := by
  intro nodes rest same
  rw [nodesOf] at same
  obtain ⟨mark, rfl⟩ := exists_single same
  simp [readFlag, followed, flag?, boolean?_toString]

/-!
## Optional values
-/

theorem takes_null : Takes (readOptional document reader) .null none := by
  intro nodes rest same
  rw [nodesOf] at same
  obtain ⟨mark, rfl⟩ := exists_single same
  simp [readOptional, isPresent, isNullWord]

/-- A shared value other than null begins with a node that stands for no null. -/
theorem IsShared.exists_present (shared : IsShared tree) (notNull : tree ≠ .null) :
    ∃ node nodes, nodesOf tree = node :: nodes ∧ isPresent node = .ok true ∧
      ∀ anchor, node ≠ .aliased anchor := by
  cases shared with
  | null => exact absurd rfl notNull
  | boolean value =>
      rw [nodesOf]
      exact ⟨_, _, rfl, by cases value <;> decide, fun _ => Node.noConfusion⟩
  | text _ => rw [nodesOf]; exact ⟨_, _, rfl, rfl, fun _ => Node.noConfusion⟩
  | list _ => rw [nodesOf]; exact ⟨_, _, rfl, rfl, fun _ => Node.noConfusion⟩
  | object _ _ => rw [nodesOf]; exact ⟨_, _, rfl, rfl, fun _ => Node.noConfusion⟩

theorem Takes.optional (takes : Takes reader tree value) (shared : IsShared tree)
    (notNull : tree ≠ .null) : Takes (readOptional document reader) tree (some value) := by
  intro nodes rest same
  obtain ⟨node, more, begins, present, noAlias⟩ := shared.exists_present notNull
  have read := takes nodes rest same
  obtain ⟨⟨first, mark⟩, others, rfl, rfl, -⟩ := List.map_eq_cons_iff.mp (same.trans begins)
  rw [List.cons_append] at read ⊢
  cases first with
  | aliased anchor => exact absurd rfl (noAlias anchor)
  | _ => simp only [readOptional, present, read]

/-!
## Lists
-/

/-- No value begins with the end of a collection. -/
theorem exists_nodesOf_eq_cons (tree : Tree) :
    ∃ node nodes, nodesOf tree = node :: nodes ∧ node ≠ .sequenceEnd ∧ node ≠ .mappingEnd := by
  cases tree <;> rw [nodesOf] <;> exact ⟨_, _, rfl, Node.noConfusion, Node.noConfusion⟩

theorem readElements_of_takes {trees : List Tree} {values : List α}
    (takes : List.Forall₂ (Takes reader) trees values) {nodes : Nodes}
    (same : nodes.map Prod.fst = trees.flatMap nodesOf) {budget : Nodes}
    (enough : nodes.length < budget.length) (position : Nat) (mark : Mark) (rest : Nodes) :
    readElements document reader budget position (nodes ++ (.sequenceEnd, mark) :: rest) =
      .ok (values, rest) := by
  induction takes generalizing nodes budget position with
  | nil =>
      obtain ⟨b, budget, rfl⟩ := List.exists_cons_of_length_pos (Nat.zero_lt_of_lt enough)
      obtain rfl := List.map_eq_nil_iff.mp same
      simp [readElements]
  | @cons tree value trees values takes _ ih =>
      obtain ⟨b, budget, rfl⟩ := List.exists_cons_of_length_pos (Nat.zero_lt_of_lt enough)
      rw [List.flatMap_cons] at same
      obtain ⟨own, others, rfl, sameOwn, sameOthers⟩ := List.map_eq_append_iff.mp same
      have read := takes own (others ++ (.sequenceEnd, mark) :: rest) sameOwn
      obtain ⟨node, more, begins, notEnd, -⟩ := exists_nodesOf_eq_cons tree
      obtain ⟨⟨first, place⟩, later, rfl, rfl, -⟩ := List.map_eq_cons_iff.mp (sameOwn.trans begins)
      have shorter : others.length < budget.length := by
        simp only [List.length_append, List.length_cons] at enough
        omega
      rw [List.append_assoc]
      rw [List.cons_append] at read ⊢
      simp only [readElements, notEnd, if_false, read, ih sameOthers shorter]

theorem takes_list {trees : List Tree} {values : List α}
    (takes : List.Forall₂ (Takes reader) trees values) :
    Takes (readList document reader) (.list trees) values := by
  intro nodes rest same
  rw [nodesOf] at same
  obtain ⟨mark, body, place, rfl, sameBody⟩ := exists_enclosed same
  have enough : body.length <
      ((Node.sequenceStart, mark) :: (body ++ (Node.sequenceEnd, place) :: rest)).length := by
    simp only [List.length_cons, List.length_append]
    omega
  rw [List.cons_append, List.append_assoc, List.singleton_append]
  simp only [readList, followed, if_true, readElements_of_takes takes sameBody enough, marking]

/-!
## Records
-/

/-- Entries that complete a draft, each by its own slot. -/
inductive Completes (shape : RecordShape Nodes Fault δ α) :
    δ → List (String × Tree) → δ → Prop
  | done (draft : δ) : Completes shape draft [] draft
  | entry {key : String} {tree : Tree} {slot : Slot Nodes Fault δ} {complete : δ → δ}
      {draft final : δ} {entries : List (String × Tree)} :
      shape.slot? key = some slot → slot.isFilled draft = false → Takes slot.read tree complete →
      Completes shape (complete draft) entries final →
      Completes shape draft ((key, tree) :: entries) final

theorem readEntries_of_completes {shape : RecordShape Nodes Fault δ α} {draft final : δ}
    {entries : List (String × Tree)} (completes : Completes shape draft entries final)
    {nodes : Nodes}
    (same : nodes.map Prod.fst = entries.flatMap fun entry =>
      .scalar none entry.1.toList .doubleQuoted :: nodesOf entry.2)
    {budget : Nodes} (enough : nodes.length < budget.length) (mark : Mark) (rest : Nodes) :
    readEntries document shape budget draft (nodes ++ (.mappingEnd, mark) :: rest) =
      .ok (final, rest) := by
  induction completes generalizing nodes budget with
  | done draft =>
      obtain ⟨b, budget, rfl⟩ := List.exists_cons_of_length_pos (Nat.zero_lt_of_lt enough)
      obtain rfl := List.map_eq_nil_iff.mp same
      simp [readEntries]
  | @entry key tree slot complete draft final entries known blank takes _ ih =>
      obtain ⟨b, budget, rfl⟩ := List.exists_cons_of_length_pos (Nat.zero_lt_of_lt enough)
      rw [List.flatMap_cons, List.cons_append] at same
      obtain ⟨⟨node, place⟩, later, rfl, rfl, sameLater⟩ := List.map_eq_cons_iff.mp same
      obtain ⟨own, others, rfl, sameOwn, sameOthers⟩ := List.map_eq_append_iff.mp sameLater
      have read := takes own (others ++ (.mappingEnd, mark) :: rest) sameOwn
      have shorter : others.length < budget.length := by
        simp only [List.length_append, List.length_cons] at enough
        omega
      rw [List.cons_append, List.append_assoc]
      simp only [readEntries, readKey, readTextAs, followed, readEntry, known, blank, read,
        ih sameOthers shorter, String.ofList_toList, reduceCtorEq, if_false, Bool.false_eq_true]

theorem takes_record {shape : RecordShape Nodes Fault δ α} {entries : List (String × Tree)}
    {final : δ} (completes : Completes shape shape.blank entries final)
    (finish : shape.finish final = .ok value) :
    Takes (readRecord document shape) (.object entries) value := by
  intro nodes rest same
  rw [nodesOf] at same
  obtain ⟨mark, body, place, rfl, sameBody⟩ := exists_enclosed same
  have enough : body.length <
      ((Node.mappingStart, mark) :: (body ++ (Node.mappingEnd, place) :: rest)).length := by
    simp only [List.length_cons, List.length_append]
    omega
  rw [List.cons_append, List.append_assoc, List.singleton_append]
  simp only [readRecord, followed, if_true, readEntries_of_completes completes sameBody enough,
    finishRecord, finish, marking]

end SnapshotTypes.Yaml
