import SnapshotTypes.Proofs.Json.Tree
import SnapshotTypes.Document
import Mathlib.Data.List.Forall2
import Mathlib.Logic.Basic

/-!
# Reading a snapshot off a value

Values are a notation of their own, in which nothing has to be recognized. The shape of a snapshot
document, applied to it, gives exactly what a value denotes.
-/

set_option autoImplicit false

namespace SnapshotTypes.Json

/-!
## The snapshot that a value denotes

Every part of a snapshot is an object or a list. An object counts through the values of the keys
that the part has, wherever they stand among its entries. A list holds all of these values and no
other, in the order of declaration.
-/

/-- The values of one key of an object, in order. -/
def valuesOf (key : String) (entries : List (String × Tree)) : List Tree :=
  (entries.filter fun entry => entry.1 = key).map Prod.snd

/-- Null stands for nothing. -/
inductive DenotesNullable {β : Type} (denotes : Tree → β → Prop) : Tree → Option β → Prop
  | null : DenotesNullable denotes .null none
  | value {tree : Tree} {value : β} :
      tree ≠ .null → denotes tree value → DenotesNullable denotes tree (some value)

/-- A key that may be left out, which also stands for nothing, but not repeated. -/
inductive DenotesAtMostOne {β : Type} (denotes : Tree → Option β → Prop) :
    List Tree → Option β → Prop
  | absent : DenotesAtMostOne denotes [] none
  | present {tree : Tree} {value : Option β} :
      denotes tree value → DenotesAtMostOne denotes [tree] value

inductive DenotesFlag : Tree → Bool → Prop
  | boolean (value : Bool) : DenotesFlag (.boolean value) value

inductive DenotesSchema : Tree → FieldSchema → Prop
  | object {entries : List (String × Tree)} {nullable : Option Bool} :
      DenotesAtMostOne (DenotesNullable DenotesFlag) (valuesOf "is_nullable" entries) nullable →
      DenotesSchema (.object entries) ⟨nullable⟩
  | list {tree : Tree} {nullable : Option Bool} :
      DenotesNullable DenotesFlag tree nullable → DenotesSchema (.list [tree]) ⟨nullable⟩

inductive DenotesCollection : Tree → String → Prop
  | object {entries : List (String × Tree)} {name : String} :
      valuesOf "collection" entries = [.text name] → DenotesCollection (.object entries) name
  | list {name : String} : DenotesCollection (.list [.text name]) name

inductive DenotesField : Tree → Field → Prop
  | object {entries : List (String × Tree)} {collection name raw : String}
      {schema : Option FieldSchema} :
      valuesOf "collection" entries = [.text collection] →
      valuesOf "field" entries = [.text name] →
      valuesOf "type" entries = [.text raw] →
      DenotesAtMostOne (DenotesNullable DenotesSchema) (valuesOf "schema" entries) schema →
      DenotesField (.object entries) ⟨collection, name, .parse raw, schema⟩
  | list {collection name raw : String} {tree : Tree} {schema : Option FieldSchema} :
      DenotesNullable DenotesSchema tree schema →
      DenotesField (.list [.text collection, .text name, .text raw, tree])
        ⟨collection, name, .parse raw, schema⟩

inductive DenotesSnapshot : Tree → Snapshot → Prop
  | object {entries : List (String × Tree)} {listed described : List Tree} {snapshot : Snapshot} :
      valuesOf "collections" entries = [.list listed] →
      valuesOf "fields" entries = [.list described] →
      List.Forall₂ DenotesCollection listed snapshot.collections →
      List.Forall₂ DenotesField described snapshot.fields →
      DenotesSnapshot (.object entries) snapshot
  | list {listed described : List Tree} {snapshot : Snapshot} :
      List.Forall₂ DenotesCollection listed snapshot.collections →
      List.Forall₂ DenotesField described snapshot.fields →
      DenotesSnapshot (.list [.list listed, .list described]) snapshot

/-!
## Readers of values
-/

open Document

abbrev TreeReader (α : Type) := Reader Tree Unit α

section Readers

variable {α β δ : Type}

/-- What a reader gives. The state that it leaves is without meaning here. -/
def valueOf? (reader : TreeReader α) (tree : Tree) : Option α :=
  match reader tree with
  | .error _ => none
  | .ok (value, _) => some value

def giving (value? : Tree → Option α) : TreeReader α := fun tree =>
  match value? tree with
  | none => .error ()
  | some value => .ok (value, tree)

def Tree.text? : Tree → Option String
  | .text value => some value
  | _ => none

def Tree.flag? : Tree → Option Bool
  | .boolean value => some value
  | _ => none

def nullable? (reader : TreeReader α) : Tree → Option (Option α)
  | .null => some none
  | tree => (valueOf? reader tree).map some

def elements? (reader : TreeReader α) : Tree → Option (List α)
  | .list elements => elements.mapM (valueOf? reader)
  | _ => none

def fillEntry (shape : RecordShape Tree Unit δ α) (draft : δ) (entry : String × Tree) : Option δ :=
  match shape.slot? entry.1 with
  | none => some draft
  | some slot =>
    if slot.isFilled draft then none
    else (valueOf? slot.read entry.2).map fun complete => complete draft

/-- The draft with the elements of a list, one for each slot. -/
def fillPositions : List (Slot Tree Unit δ) → List Tree → δ → Option δ
  | [], [], draft => some draft
  | slot :: slots, tree :: trees, draft =>
    (valueOf? slot.read tree).bind fun complete => fillPositions slots trees (complete draft)
  | _, _, _ => none

def finished? (shape : RecordShape Tree Unit δ α) (draft : δ) : Option α :=
  (shape.finish draft).toOption

def record? (shape : RecordShape Tree Unit δ α) : Tree → Option α
  | .object entries => (entries.foldlM (fillEntry shape) shape.blank).bind (finished? shape)
  | .list elements => (fillPositions shape.slots elements shape.blank).bind (finished? shape)
  | _ => none

end Readers

def treeNotations : Notations Tree Unit where
  text := giving Tree.text?
  flag := giving Tree.flag?
  optional reader := giving (nullable? reader)
  list reader := giving (elements? reader)
  record shape := giving (record? shape)

section Decisions

variable {α β δ : Type} {tree : Tree}

@[simp] theorem valueOf?_giving (value? : Tree → Option α) (tree : Tree) :
    valueOf? (giving value?) tree = value? tree := by
  unfold valueOf? giving
  cases value? tree <;> rfl

@[simp] theorem valueOf?_map (change : α → β) (reader : TreeReader α) (tree : Tree) :
    valueOf? (reader.map change) tree = (valueOf? reader tree).map change := by
  unfold valueOf? Reader.map
  cases reader tree <;> rfl

/-- A reader gives the values that a relation tells. -/
def Decides (reader : TreeReader α) (denotes : Tree → α → Prop) : Prop :=
  ∀ tree value, valueOf? reader tree = some value ↔ denotes tree value

theorem decides_text : Decides treeNotations.text fun tree value => tree = .text value := by
  intro tree value
  rw [treeNotations, valueOf?_giving]
  cases tree <;> simp [Tree.text?]

theorem decides_flag : Decides treeNotations.flag DenotesFlag := by
  intro tree value
  rw [treeNotations, valueOf?_giving]
  constructor
  · intro given
    cases tree with
    | boolean flag =>
        obtain rfl := Option.some.inj given
        exact .boolean flag
    | _ => cases given
  · intro denotes
    cases denotes
    rfl

variable {reader : TreeReader α} {denotes : Tree → α → Prop}

theorem nullable?_of_ne_null (notNull : tree ≠ .null) :
    nullable? reader tree = (valueOf? reader tree).map some := by
  cases tree with
  | null => exact absurd rfl notNull
  | _ => rfl

theorem Decides.nullable (reads : Decides reader denotes) :
    Decides (treeNotations.optional reader) (DenotesNullable denotes) := by
  intro tree value
  rw [treeNotations, valueOf?_giving]
  by_cases isNull : tree = .null
  · subst isNull
    constructor
    · intro given
      obtain rfl := Option.some.inj given
      exact .null
    · intro means
      cases means with
      | null => rfl
      | value notNull _ => exact absurd rfl notNull
  · rw [nullable?_of_ne_null isNull, Option.map_eq_some_iff]
    constructor
    · intro given
      obtain ⟨inner, given, rfl⟩ := given
      exact .value isNull ((reads tree inner).mp given)
    · intro means
      cases means with
      | null => exact absurd rfl isNull
      | value _ inner => exact ⟨_, (reads _ _).mpr inner, rfl⟩

theorem Decides.mapM_eq_some_iff (reads : Decides reader denotes) {elements : List Tree}
    {values : List α} :
    elements.mapM (valueOf? reader) = some values ↔ List.Forall₂ denotes elements values := by
  induction elements generalizing values with
  | nil => simp [eq_comm]
  | cons tree rest ih =>
      rw [List.mapM_cons, List.forall₂_cons_left_iff]
      simp only [Option.pure_def, Option.bind_eq_bind, Option.bind_eq_some_iff, Option.some.injEq,
        reads tree _, ih]
      constructor
      · intro given
        obtain ⟨value, means, others, meanings, rfl⟩ := given
        exact ⟨value, others, means, meanings, rfl⟩
      · intro given
        obtain ⟨value, others, means, meanings, rfl⟩ := given
        exact ⟨value, means, others, meanings, rfl⟩

theorem Decides.list (reads : Decides reader denotes) :
    Decides (treeNotations.list reader) fun tree values =>
      ∃ elements, tree = .list elements ∧ List.Forall₂ denotes elements values := by
  intro tree values
  rw [treeNotations, valueOf?_giving]
  cases tree with
  | list elements => simp [elements?, reads.mapM_eq_some_iff]
  | _ => simp [elements?]

end Decisions

/-!
## Records

An entry may complete a part of the draft only once. So a part is complete in the end exactly if its
key has one value, or if it was complete before and its key has none.
-/

section Records

variable {α β δ : Type} {entries : List (String × Tree)} {key : String} {tree : Tree}

inductive Fills (denotes : Tree → β → Prop) : List Tree → Option β → Option β → Prop
  | absent {part : Option β} : Fills denotes [] part part
  | present {tree : Tree} {value : β} : denotes tree value → Fills denotes [tree] none (some value)

variable {denotes : Tree → β → Prop} {trees : List Tree} {before after : Option β}

@[simp] theorem fills_nil_iff : Fills denotes [] before after ↔ before = after := by
  constructor
  · intro fills
    cases fills
    rfl
  · intro same
    subst same
    exact .absent

@[simp] theorem fills_cons_iff :
    Fills denotes (tree :: trees) before after ↔
      before = none ∧ ∃ value, denotes tree value ∧ Fills denotes trees (some value) after := by
  constructor
  · intro fills
    cases fills with
    | present means => exact ⟨rfl, _, means, .absent⟩
  · intro given
    obtain ⟨rfl, value, means, fills⟩ := given
    cases fills with
    | absent => exact .present means

/-- From a part that is not complete, a record has to have the key once. -/
theorem fills_none_some_iff {value : β} :
    Fills denotes trees none (some value) ↔ ∃ tree, trees = [tree] ∧ denotes tree value := by
  constructor
  · intro fills
    cases fills with
    | present means => exact ⟨_, rfl, means⟩
  · intro given
    obtain ⟨tree, rfl, means⟩ := given
    exact .present means

/-- A key that may be left out. -/
theorem fills_none_iff {denotes : Tree → Option β → Prop} {value : Option β} :
    (∃ part, Fills denotes trees none part ∧ part.join = value) ↔
      DenotesAtMostOne denotes trees value := by
  constructor
  · intro given
    obtain ⟨part, fills, rfl⟩ := given
    cases fills with
    | absent => exact .absent
    | present means => exact .present means
  · intro means
    cases means with
    | absent => exact ⟨none, .absent, rfl⟩
    | present means => exact ⟨_, .present means, rfl⟩

@[simp] theorem valuesOf_nil (key : String) : valuesOf key [] = [] :=
  rfl

theorem valuesOf_cons (key : String) (entry : String × Tree) (entries : List (String × Tree)) :
    valuesOf key (entry :: entries) =
      if entry.1 = key then entry.2 :: valuesOf key entries else valuesOf key entries := by
  unfold valuesOf
  rw [List.filter_cons]
  by_cases same : entry.1 = key <;> simp [same]

variable {shape : RecordShape Tree Unit δ α} {draft final : δ}

theorem foldlM_fillEntry_of_unknown (unknown : shape.slot? key = none) :
    ((key, tree) :: entries).foldlM (fillEntry shape) draft =
      entries.foldlM (fillEntry shape) draft := by
  rw [List.foldlM_cons, fillEntry, unknown]
  rfl

theorem Decides.foldlM_fillEntry {reader : TreeReader β} (reads : Decides reader denotes)
    {name : String} {isFilled : δ → Bool} {change : β → δ → δ}
    (known : shape.slot? key = some ⟨name, isFilled, reader.map change⟩) :
    ((key, tree) :: entries).foldlM (fillEntry shape) draft = some final ↔
      isFilled draft = false ∧ ∃ value, denotes tree value ∧
        entries.foldlM (fillEntry shape) (change value draft) = some final := by
  rw [List.foldlM_cons, fillEntry, known]
  cases filled : isFilled draft with
  | true => simp [filled]
  | false => simp [filled, Option.bind_eq_some_iff, reads tree _]

/-- An object whose record has one key. -/
theorem foldlM_fillEntry_single (shape : RecordShape Tree Unit (Option β) α) {key : String}
    {reader : TreeReader β} {draft final : Option β} (reads : Decides reader denotes)
    (slots : shape.slots = [⟨key, Option.isSome, reader.map fun value _ => some value⟩]) :
    entries.foldlM (fillEntry shape) draft = some final ↔
      Fills denotes (valuesOf key entries) draft final := by
  induction entries generalizing draft with
  | nil => simp
  | cons entry entries ih =>
      obtain ⟨name, tree⟩ := entry
      rw [valuesOf_cons]
      by_cases same : name = key
      · have known : shape.slot? name =
            some ⟨key, Option.isSome, reader.map fun value _ => some value⟩ := by
          simp [RecordShape.slot?, slots, same]
        rw [reads.foldlM_fillEntry known, if_pos same, fills_cons_iff, Option.isSome_eq_false_iff]
        simp [ih]
      · have unknown : shape.slot? name = none := by
          simp [RecordShape.slot?, slots, Ne.symm same]
        rw [foldlM_fillEntry_of_unknown unknown, if_neg same, ih]

theorem valueOf?_record (shape : RecordShape Tree Unit δ α) (tree : Tree) :
    valueOf? (treeNotations.record shape) tree = record? shape tree :=
  valueOf?_giving (record? shape) tree

theorem bind_finished?_eq_some_iff {drafted : Option δ} {value : α} :
    drafted.bind (finished? shape) = some value ↔
      ∃ draft, drafted = some draft ∧ shape.finish draft = .ok value := by
  rw [Option.bind_eq_some_iff]
  refine exists_congr fun draft => and_congr_right fun _ => ?_
  rw [finished?]
  cases shape.finish draft <;> simp [Except.toOption]

@[simp] theorem fillPositions_nil_iff :
    fillPositions ([] : List (Slot Tree Unit δ)) trees draft = some final ↔
      trees = [] ∧ draft = final := by
  cases trees <;> simp [fillPositions]

theorem Decides.fillPositions_cons {reader : TreeReader β} (reads : Decides reader denotes)
    {isFilled : δ → Bool} {change : β → δ → δ} {slots : List (Slot Tree Unit δ)} :
    fillPositions (⟨key, isFilled, reader.map change⟩ :: slots) trees draft = some final ↔
      ∃ tree rest value, trees = tree :: rest ∧ denotes tree value ∧
        fillPositions slots rest (change value draft) = some final := by
  cases trees with
  | nil => simp [fillPositions]
  | cons tree rest => simp [fillPositions, Option.bind_eq_some_iff, reads tree _]

theorem required_eq_ok_iff {part : Option α} {value : α} :
    required key part = .ok value ↔ part = some value := by
  cases part <;> simp [required]

end Records

end SnapshotTypes.Json
