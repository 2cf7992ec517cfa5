import SnapshotTypes.Decoding
import SnapshotTypes.Generation
import SnapshotTypes.Proofs.Json.RecordSimulation
import SnapshotTypes.Proofs.Json.TreeSnapshot
import SnapshotTypes.Proofs.Yaml.Reading

/-!
# Decoding of compact snapshots

The compact JSON text of a snapshot is a text of YAML as well, and both notations give the snapshot
that it was written for.
-/

set_option autoImplicit false

namespace SnapshotTypes

open Json (Tree DenotesSnapshot DenotesField DenotesSchema)
open Document (collectionShape schemaShape fieldShape)
open Yaml (IsAscii IsShared IsShortKey Takes)

/-!
## Snapshots as they are written
-/

/-- The value of a key that may be left out or set to null. -/
inductive Given (α : Type) where
  | absent
  | null
  | present (value : α)
deriving DecidableEq, Repr

namespace Given

variable {α : Type}

def toOption : Given α → Option α
  | absent => none
  | null => none
  | present value => some value

def entries (key : String) (tree : α → Tree) : Given α → List (String × Tree)
  | absent => []
  | null => [(key, .null)]
  | present value => [(key, tree value)]

end Given

/-- A field with its type as a text. Its schema tells whether the column may be null, or leaves that
open. -/
structure FieldSource where
  collection : String
  name : String
  type : String
  schema : Given (Given Bool)
deriving DecidableEq, Repr

structure SnapshotSource where
  collections : List String
  fields : List FieldSource
deriving DecidableEq, Repr

def collectionTree (name : String) : Tree :=
  .object [("collection", .text name)]

def schemaTree (flag : Given Bool) : Tree :=
  .object (flag.entries "is_nullable" .boolean)

namespace FieldSource

def tree (source : FieldSource) : Tree :=
  .object (("collection", .text source.collection) :: ("field", .text source.name) ::
    ("type", .text source.type) :: source.schema.entries "schema" schemaTree)

def field (source : FieldSource) : Field where
  collection := source.collection
  name := source.name
  type := .parse source.type
  schema := source.schema.toOption.map fun flag => ⟨flag.toOption⟩

def IsAscii (source : FieldSource) : Prop :=
  Yaml.IsAscii source.collection ∧ Yaml.IsAscii source.name ∧ Yaml.IsAscii source.type

instance (source : FieldSource) : Decidable source.IsAscii :=
  inferInstanceAs (Decidable (_ ∧ _ ∧ _))

end FieldSource

namespace SnapshotSource

def tree (source : SnapshotSource) : Tree :=
  .object [("collections", .list (source.collections.map collectionTree)),
    ("fields", .list (source.fields.map FieldSource.tree))]

/-- The keys in the order of their declaration, and no blanks. -/
def text (source : SnapshotSource) : String :=
  String.ofList source.tree.compact

def snapshot (source : SnapshotSource) : Snapshot where
  collections := source.collections
  fields := source.fields.map FieldSource.field

/-- No character from the delete character on, in a name or a type. -/
def IsAscii (source : SnapshotSource) : Prop :=
  (∀ name ∈ source.collections, Yaml.IsAscii name) ∧ ∀ field ∈ source.fields, field.IsAscii

instance (source : SnapshotSource) : Decidable source.IsAscii :=
  @instDecidableAnd _ _ (@List.decidableBAll String Yaml.IsAscii (fun _ => inferInstance) _)
    (@List.decidableBAll FieldSource FieldSource.IsAscii (fun _ => inferInstance) _)

example :
    SnapshotSource.text ⟨["notes"], [⟨"notes", "a \"b\"\n", "string", .present .null⟩]⟩ =
      "\x7b\"collections\":[\x7b\"collection\":\"notes\"\x7d],\"fields\":[\x7b\"collection\":" ++
      "\"notes\",\"field\":\"a \\\"b\\\"\\n\",\"type\":\"string\",\"schema\":" ++
      "\x7b\"is_nullable\":null\x7d\x7d]\x7d" := by
  cbv

end SnapshotSource

/-!
## In JSON
-/

theorem denotesSchema_schemaTree (flag : Given Bool) :
    DenotesSchema (schemaTree flag) ⟨flag.toOption⟩ := by
  cases flag with
  | absent => exact .object .absent
  | null => exact .object (.present .null)
  | present flag => exact .object (.present (.value Tree.noConfusion (.boolean flag)))

theorem FieldSource.denotesField (source : FieldSource) :
    DenotesField source.tree source.field := by
  obtain ⟨collection, name, type, schema⟩ := source
  refine .object ?_ ?_ ?_ ?_
  · cases schema <;> rfl
  · cases schema <;> rfl
  · cases schema <;> rfl
  · cases schema with
    | absent => exact .absent
    | null => exact .present .null
    | present flag => exact .present (.value Tree.noConfusion (denotesSchema_schemaTree flag))

theorem SnapshotSource.denotesSnapshot (source : SnapshotSource) :
    DenotesSnapshot source.tree source.snapshot := by
  refine .object rfl rfl ?_ ?_
  · rw [List.forall₂_map_left_iff]
    exact List.forall₂_same.mpr fun name _ => .object rfl
  · rw [SnapshotSource.snapshot, List.forall₂_map_left_iff, List.forall₂_map_right_iff]
    exact List.forall₂_same.mpr fun field _ => field.denotesField

theorem SnapshotSource.parse_json (source : SnapshotSource) :
    Snapshot.parse source.text .json = .ok source.snapshot := by
  have agrees := Json.simulates_snapshot.record (Json.written_compact source.tree)
    Json.areBlanks_nil Json.isDelimited_nil
  rw [List.nil_append, List.append_nil] at agrees
  have worth := (Json.decides_snapshot source.tree source.snapshot).mpr source.denotesSnapshot
  have read : Document.snapshotReader Json.notations source.tree.compact = _ := agrees.eq_ok worth
  rw [Snapshot.parse, Json.parseSnapshot, text, String.toList_ofList, read]

/-!
## In YAML
-/

section Yaml

variable {document : Yaml.NodeStream}

theorem takes_collectionTree (name : String) :
    Takes (Yaml.readRecord document (collectionShape (Yaml.notations document)))
      (collectionTree name) name :=
  Yaml.takes_record (.entry rfl rfl ((Yaml.takes_text name _).map _) (.done _)) rfl

theorem takes_schemaTree (flag : Given Bool) :
    Takes (Yaml.readRecord document (schemaShape (Yaml.notations document)))
      (schemaTree flag) ⟨flag.toOption⟩ := by
  cases flag with
  | absent => exact Yaml.takes_record (.done _) rfl
  | null => exact Yaml.takes_record (.entry rfl rfl (Yaml.takes_null.map _) (.done _)) rfl
  | present flag =>
      have takes : Takes (Yaml.readOptional document (Yaml.readFlag document)) (.boolean flag) _ :=
        (Yaml.takes_flag flag).optional (.boolean flag) Tree.noConfusion
      exact Yaml.takes_record (.entry rfl rfl (takes.map _) (.done _)) rfl

theorem Given.isShared_entries {α : Type} {key : String} (short : IsShortKey key)
    {tree : α → Tree} (shared : ∀ value, IsShared (tree value)) (given : Given α) :
    ∀ entry ∈ given.entries key tree, IsShortKey entry.1 ∧ IsShared entry.2 := by
  cases given with
  | absent => exact List.forall_mem_nil _
  | null => exact List.forall_mem_singleton.mpr ⟨short, .null⟩
  | present value => exact List.forall_mem_singleton.mpr ⟨short, shared value⟩

theorem isShared_schemaTree (flag : Given Bool) : IsShared (schemaTree flag) :=
  Yaml.isShared_object (Given.isShared_entries (by decide) .boolean flag)

theorem FieldSource.takes (source : FieldSource) :
    Takes (Yaml.readRecord document (fieldShape (Yaml.notations document))) source.tree
      source.field := by
  have takes_text (text : String) : Takes (Yaml.notations document).text (.text text) text :=
    Yaml.takes_text text Document.expectedText
  obtain ⟨collection, name, type, schema⟩ := source
  have named (final : Document.FieldDraft) {entries : List (String × Tree)} :
      Yaml.Completes (fieldShape (Yaml.notations document))
          ⟨some collection, some name, some (.parse type), none⟩ entries final →
        Yaml.Completes (fieldShape (Yaml.notations document)) ⟨none, none, none, none⟩
          (("collection", .text collection) :: ("field", .text name) ::
            ("type", .text type) :: entries) final :=
    fun later => .entry rfl rfl ((takes_text collection).map _)
      (.entry rfl rfl ((takes_text name).map _) (.entry rfl rfl ((takes_text type).map _) later))
  cases schema with
  | absent => exact Yaml.takes_record (named _ (.done _)) rfl
  | null =>
      exact Yaml.takes_record (named _ (.entry rfl rfl (Yaml.takes_null.map _) (.done _))) rfl
  | present flag =>
      have schema : Takes ((Yaml.notations document).optional
          (Yaml.readRecord document (schemaShape (Yaml.notations document)))) (schemaTree flag) _ :=
        (takes_schemaTree flag).optional (isShared_schemaTree flag) Tree.noConfusion
      exact Yaml.takes_record (named _ (.entry rfl rfl (schema.map _) (.done _))) rfl

theorem FieldSource.isShared_tree {source : FieldSource} (ascii : source.IsAscii) :
    IsShared source.tree := by
  refine Yaml.isShared_object ?_
  simp only [List.forall_mem_cons]
  exact ⟨⟨by decide, .text ascii.1⟩, ⟨by decide, .text ascii.2.1⟩,
    ⟨by decide, .text ascii.2.2⟩, source.schema.isShared_entries (by decide) isShared_schemaTree⟩

theorem SnapshotSource.takes (source : SnapshotSource) :
    Takes (Document.snapshotReader (Yaml.notations document)) source.tree source.snapshot := by
  have collections : List.Forall₂
      (Takes (Yaml.readRecord document (collectionShape (Yaml.notations document))))
      (source.collections.map collectionTree) source.collections :=
    List.forall₂_map_left_iff.mpr (List.forall₂_same.mpr fun name _ => takes_collectionTree name)
  have fields : List.Forall₂
      (Takes (Yaml.readRecord document (fieldShape (Yaml.notations document))))
      (source.fields.map FieldSource.tree) (source.fields.map FieldSource.field) :=
    List.forall₂_map_left_iff.mpr (List.forall₂_map_right_iff.mpr
      (List.forall₂_same.mpr fun field _ => field.takes))
  exact Yaml.takes_record (.entry rfl rfl ((Yaml.takes_list collections).map _)
    (.entry rfl rfl ((Yaml.takes_list fields).map _) (.done _))) rfl

theorem isShared_collectionTree {name : String} (ascii : IsAscii name) :
    IsShared (collectionTree name) := by
  have short : IsShortKey "collection" := by decide
  exact Yaml.isShared_object (List.forall_mem_singleton.mpr ⟨short, .text ascii⟩)

theorem SnapshotSource.isShared_tree {source : SnapshotSource} (ascii : source.IsAscii) :
    IsShared source.tree := by
  have collections : IsShared (.list (source.collections.map collectionTree)) :=
    .list (List.forall_mem_map.mpr fun name member =>
      isShared_collectionTree (ascii.1 name member))
  have fields : IsShared (.list (source.fields.map FieldSource.tree)) :=
    .list (List.forall_mem_map.mpr fun field member =>
      FieldSource.isShared_tree (ascii.2 field member))
  refine Yaml.isShared_object (List.forall_mem_cons.mpr ⟨⟨?_, collections⟩,
    List.forall_mem_singleton.mpr ⟨?_, fields⟩⟩)
  · show IsShortKey "collections"
    decide
  · show IsShortKey "fields"
    decide

end Yaml

theorem SnapshotSource.parse_yaml {source : SnapshotSource} (ascii : source.IsAscii) :
    Snapshot.parse source.text .yaml = .ok source.snapshot := by
  have shared := SnapshotSource.isShared_tree ascii
  obtain ⟨nodes, document, same⟩ := Yaml.exists_nodes_of_isShared shared
  have read : Document.snapshotReader (Yaml.notations ⟨nodes, [], none⟩) (nodes ++ []) = _ :=
    source.takes nodes [] same
  rw [List.append_nil] at read
  have whole : Yaml.NodeStream.ofText source.tree.compact = ⟨nodes, [], none⟩ := document
  rw [Snapshot.parse, Yaml.parseSnapshot, text, String.toList_ofList, whole, Yaml.readSnapshot]
  simp only [read]

/-!
## In both
-/

/-- The declarations that a text in one of the notations is translated to, as text. -/
def Snapshot.translated (source : String) (format : Format) (layout : Layout) :
    Except Document.Failure (Except UnsupportedType String) :=
  (Snapshot.parse source format).map fun snapshot =>
    (assemble snapshot layout).2.map DeclarationFile.render

/-- The compact JSON text of a snapshot is decoded to that snapshot in either notation, whatever
ASCII characters its names and types hold and however its schemas are left open, and so it gives the
same declarations. -/
theorem SnapshotSource.notations_agree (source : SnapshotSource) (ascii : source.IsAscii) :
    Snapshot.parse source.text .json = .ok source.snapshot ∧
      Snapshot.parse source.text .yaml = .ok source.snapshot ∧
      ∀ layout, Snapshot.translated source.text .yaml layout =
        Snapshot.translated source.text .json layout := by
  have json := source.parse_json
  have yaml := SnapshotSource.parse_yaml ascii
  refine ⟨json, yaml, fun layout => ?_⟩
  rw [Snapshot.translated, Snapshot.translated, json, yaml]

/-- Names that look like YAML, with every way to give a schema. -/
def SnapshotSource.tricky : SnapshotSource where
  collections := ["- a: [b] # c", "", "---", "null", "\" \\ \n\t\x00  \x1f \x7b~\x7d"]
  fields :=
    [⟨"null", "true", "geometry. ,\x7d", .absent⟩, ⟨"null", "'", "&x *x !!str", .null⟩,
      ⟨"---", "%TAG", "string", .present .absent⟩, ⟨"---", "|", "string", .present .null⟩,
      ⟨"---", ">", "string", .present (.present true)⟩,
      ⟨"---", "a: b", "string", .present (.present false)⟩]

theorem SnapshotSource.notations_agree_on_tricky_names :
    Snapshot.parse tricky.text .json = .ok tricky.snapshot ∧
      Snapshot.parse tricky.text .yaml = .ok tricky.snapshot ∧
      ∀ layout, Snapshot.translated tricky.text .yaml layout =
        Snapshot.translated tricky.text .json layout :=
  tricky.notations_agree (by decide)

end SnapshotTypes
