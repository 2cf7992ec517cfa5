import SnapshotTypes.Decoding
import SnapshotTypes.Proofs.Json.FaultPaths
import SnapshotTypes.Proofs.Json.TreeSnapshot

/-!
# Values that do not fit their place

A document with a value of a wrong kind, or with an object that lacks a required key, is refused
with the path of that value. What was read before it does not change the path, and what stands
behind it is never looked at.
-/

set_option autoImplicit false

namespace SnapshotTypes

open Json Document

/-!
## Sites
-/

def without (key : String) (entries : List (String × Tree)) : List (String × Tree) :=
  entries.filter fun entry => entry.1 ≠ key

/-- The texts that a field has to have. -/
inductive FieldText where
  | collection
  | name
  | type
deriving DecidableEq, Repr

def FieldText.key : FieldText → String
  | collection => "collection"
  | name => "field"
  | type => "type"

/-- The places of a snapshot document at which a value counts. -/
inductive Site where
  | snapshot
  | collections
  | collection (position : Nat)
  | collectionName (position : Nat)
  | fields
  | field (position : Nat)
  | fieldText (position : Nat) (text : FieldText)
  | schema (position : Nat)
  | nullable (position : Nat)
deriving DecidableEq, Repr

namespace Site

def path : Site → Path
  | snapshot => []
  | collections => [.key "collections"]
  | collection position => [.key "collections", .index position]
  | collectionName position => [.key "collections", .index position, .key "collection"]
  | fields => [.key "fields"]
  | field position => [.key "fields", .index position]
  | fieldText position text => [.key "fields", .index position, .key text.key]
  | schema position => [.key "fields", .index position, .key "schema"]
  | nullable position => [.key "fields", .index position, .key "schema", .key "is_nullable"]

/-- How an error names the site. -/
def name : Site → String
  | snapshot => "."
  | collections => "collections"
  | collection position => "collections[" ++ toString position ++ "]"
  | collectionName position => "collections[" ++ toString position ++ "].collection"
  | fields => "fields"
  | field position => "fields[" ++ toString position ++ "]"
  | fieldText position text => "fields[" ++ toString position ++ "]." ++ text.key
  | schema position => "fields[" ++ toString position ++ "].schema"
  | nullable position => "fields[" ++ toString position ++ "].schema.is_nullable"

theorem render_path (site : Site) : site.path.render = site.name := by
  refine String.toList_inj.mp ?_
  cases site <;> simp [path, name, Path.render, Step.leading, Step.continued]

/-- The kinds of values that the site does not take. -/
def Forbids : Site → Kind → Prop
  | snapshot, kind => kind ≠ .list ∧ kind ≠ .object
  | collections, kind => kind ≠ .list
  | collection _, kind => kind ≠ .list ∧ kind ≠ .object
  | collectionName _, kind => kind ≠ .text
  | fields, kind => kind ≠ .list
  | field _, kind => kind ≠ .list ∧ kind ≠ .object
  | fieldText _ _, kind => kind ≠ .text
  | schema _, kind => kind ∈ [.boolean, .number, .text]
  | nullable _, kind => kind ≠ .null ∧ kind ≠ .boolean

def requiredKeys : Site → List String
  | snapshot => ["collections", "fields"]
  | collection _ => ["collection"]
  | field _ => ["collection", "field", "type"]
  | _ => []

/-- What must not stand in the place of the value at a site: a text that begins like a value of a
wrong kind, or the object that was there without one of the required keys. -/
inductive Misfit (site : Site) (value : Tree) : List Char → Prop
  | kind {kind : Kind} {text : List Char} :
      site.Forbids kind → BeginsLike kind text → Misfit site value text
  | lacking {entries : List (String × Tree)} {key : String} {text : List Char} :
      value = .object entries → key ∈ site.requiredKeys →
      Written (.object (without key entries)) text → Misfit site value text

end Site

/-!
## Objects that lack a key
-/

theorem valuesOf_without_self (key : String) (entries : List (String × Tree)) :
    valuesOf key (without key entries) = [] := by
  simp [valuesOf, without, List.filter_filter]

theorem valuesOf_without {key other : String} (apart : other ≠ key)
    (entries : List (String × Tree)) :
    valuesOf other (without key entries) = valuesOf other entries := by
  rw [valuesOf, valuesOf, without, List.filter_filter]
  congr 1
  refine List.filter_congr fun entry _ => ?_
  by_cases same : entry.1 = other <;> simp [same, apart]

section Lacking

variable {entries : List (String × Tree)} {key : String} {text : List Char}

theorem refuses_collection_lacking (required : key ∈ ["collection"])
    (written : Written (.object (without key entries)) text) :
    Refuses (readRecord (collectionShape notations)) text := by
  obtain rfl := List.mem_singleton.mp required
  have filled : (without "collection" entries).foldlM
      (fillEntry (collectionShape treeNotations)) none = some none := by
    rw [foldlM_fillEntry_single (collectionShape treeNotations) decides_text rfl,
      valuesOf_without_self]
    exact .absent
  exact .lacking simulates_collection filled rfl written

theorem refuses_field_lacking {field : Field} (denotes : DenotesField (.object entries) field)
    (required : key ∈ ["collection", "field", "type"])
    (written : Written (.object (without key entries)) text) :
    Refuses (readRecord (fieldShape notations)) text := by
  have filled (final : FieldDraft) :=
    (@foldlM_fillEntry_field (without key entries) (fieldShape treeNotations).blank final).mpr
  cases denotes with
  | @object _ collection name raw _ oneCollection oneName oneType schemas =>
      obtain ⟨part, schemas, -⟩ := fills_none_iff.mpr schemas
      have collections : Fills (fun tree text => tree = .text text) _ none (some collection) :=
        fills_none_some_iff.mpr ⟨_, oneCollection, rfl⟩
      have names : Fills (fun tree text => tree = .text text) _ none (some name) :=
        fills_none_some_iff.mpr ⟨_, oneName, rfl⟩
      have types : Fills DenotesType _ none (some (.parse raw)) :=
        fills_none_some_iff.mpr ⟨_, oneType, raw, rfl, rfl⟩
      simp only [List.mem_cons, List.not_mem_nil, or_false] at required
      rcases required with rfl | rfl | rfl <;>
        simp (disch := decide) only [valuesOf_without_self, valuesOf_without] at filled
      · have filled := filled ⟨none, some name, some (.parse raw), part⟩
          ⟨.absent, names, types, schemas⟩
        exact .lacking simulates_field filled rfl written
      · have filled := filled ⟨some collection, none, some (.parse raw), part⟩
          ⟨collections, .absent, types, schemas⟩
        exact .lacking simulates_field filled rfl written
      · have filled := filled ⟨some collection, some name, none, part⟩
          ⟨collections, names, .absent, schemas⟩
        exact .lacking simulates_field filled rfl written

theorem refuses_snapshot_lacking {snapshot : Snapshot}
    (denotes : DenotesSnapshot (.object entries) snapshot)
    (required : key ∈ ["collections", "fields"])
    (written : Written (.object (without key entries)) text) :
    Refuses (snapshotReader notations) text := by
  have filled (final : SnapshotDraft) :=
    (@foldlM_fillEntry_snapshot (without key entries) (snapshotShape treeNotations).blank final _ _
      decides_collection.list decides_field.list).mpr
  cases denotes with
  | @object _ listed described snapshot oneListing oneDescription names means =>
      have listings : Fills (fun tree names => ∃ listed, tree = .list listed ∧
          List.Forall₂ DenotesCollection listed names) _ none (some snapshot.collections) :=
        fills_none_some_iff.mpr ⟨_, oneListing, listed, rfl, names⟩
      have descriptions : Fills (fun tree fields => ∃ described, tree = .list described ∧
          List.Forall₂ DenotesField described fields) _ none (some snapshot.fields) :=
        fills_none_some_iff.mpr ⟨_, oneDescription, described, rfl, means⟩
      simp only [List.mem_cons, List.not_mem_nil, or_false] at required
      rcases required with rfl | rfl <;>
        simp (disch := decide) only [valuesOf_without_self, valuesOf_without] at filled
      · have filled := filled ⟨none, some snapshot.fields⟩ ⟨.absent, descriptions⟩
        exact .lacking simulates_snapshot filled rfl written
      · have filled := filled ⟨some snapshot.collections, none⟩ ⟨listings, .absent⟩
        exact .lacking simulates_snapshot filled rfl written

end Lacking

/-!
## Misfits at a site
-/

section Sites

variable {value : Tree} {path : Path} {kind : Kind} {text : List Char}

theorem locates_in_collection (begins : BeginsLike kind text)
    (locates : Locates (readRecord (collectionShape notations))
      (treeNotations.record (collectionShape treeNotations)) path value text) (position : Nat) :
    Locates (snapshotReader notations) (snapshotReader treeNotations)
      (.key "collections" :: .index position :: path) value text :=
  .record simulates_snapshot rfl rfl rfl
    ((Locates.list simulates_collection.record begins locates position).map _)

theorem locates_in_field (begins : BeginsLike kind text)
    (locates : Locates (readRecord (fieldShape notations))
      (treeNotations.record (fieldShape treeNotations)) path value text) (position : Nat) :
    Locates (snapshotReader notations) (snapshotReader treeNotations)
      (.key "fields" :: .index position :: path) value text :=
  .record simulates_snapshot rfl rfl rfl
    ((Locates.list simulates_field.record begins locates position).map _)

theorem locates_fieldText (refuses : Refuses readText text) (key : FieldText) :
    Locates (readRecord (fieldShape notations))
      (treeNotations.record (fieldShape treeNotations)) [.key key.key] value text := by
  cases key with
  | collection => exact .record simulates_field rfl rfl rfl ((refuses.map _).locates _ _)
  | name => exact .record simulates_field rfl rfl rfl ((refuses.map _).locates _ _)
  | type => exact .record simulates_field rfl rfl rfl ((refuses.map _).locates _ _)

theorem locates_of_forbids {site : Site} (forbids : site.Forbids kind)
    (begins : BeginsLike kind text) :
    Locates (snapshotReader notations) (snapshotReader treeNotations) site.path value text := by
  cases site with
  | snapshot => exact (refuses_readRecord _ begins forbids.1 forbids.2).locates _ _
  | collections =>
      have refuses := refuses_readList (readRecord (collectionShape notations)) begins forbids
      exact .record simulates_snapshot rfl rfl rfl ((refuses.map _).locates _ _)
  | collection position =>
      have refuses := refuses_readRecord (collectionShape notations) begins forbids.1 forbids.2
      exact locates_in_collection begins (refuses.locates _ _) position
  | collectionName position =>
      have refuses := refuses_readText begins forbids
      exact locates_in_collection begins
        (.record simulates_collection rfl rfl rfl ((refuses.map _).locates _ _)) position
  | fields =>
      have refuses := refuses_readList (readRecord (fieldShape notations)) begins forbids
      exact .record simulates_snapshot rfl rfl rfl ((refuses.map _).locates _ _)
  | field position =>
      have refuses := refuses_readRecord (fieldShape notations) begins forbids.1 forbids.2
      exact locates_in_field begins (refuses.locates _ _) position
  | fieldText position key =>
      exact locates_in_field begins (locates_fieldText (refuses_readText begins forbids) key)
        position
  | schema position =>
      have others : kind ≠ .list ∧ kind ≠ .object ∧ kind ≠ .null := by
        simp only [Site.Forbids, List.mem_cons, List.not_mem_nil, or_false] at forbids
        rcases forbids with rfl | rfl | rfl <;> decide
      have refuses : Refuses (readOptional (readRecord (schemaShape notations))) text :=
        (refuses_readRecord _ begins others.1 others.2.1).optional begins others.2.2
      exact locates_in_field begins
        (.record simulates_field rfl rfl rfl ((refuses.map _).locates _ _)) position
  | nullable position =>
      have refuses : Refuses (readOptional readFlag) text :=
        (refuses_readFlag begins forbids.2).optional begins forbids.1
      have inSchema : Locates (readRecord (schemaShape notations))
          (treeNotations.record (schemaShape treeNotations)) [.key "is_nullable"] value text :=
        .record simulates_schema rfl rfl rfl ((refuses.map _).locates _ _)
      exact locates_in_field begins
        (.record simulates_field rfl rfl rfl (inSchema.optional.map _)) position

theorem Site.Misfit.locates {site : Site} (misfit : site.Misfit value text) :
    Locates (snapshotReader notations) (snapshotReader treeNotations) site.path value text := by
  cases misfit with
  | kind forbids begins => exact locates_of_forbids forbids begins
  | @lacking entries key _ same required written =>
      subst same
      cases site with
      | snapshot =>
          exact .of_valid fun snapshot valid =>
            refuses_snapshot_lacking ((decides_snapshot _ snapshot).mp valid) required written
      | collection position =>
          exact locates_in_collection written.beginsLike
            ((refuses_collection_lacking required written).locates _ _) position
      | field position =>
          exact locates_in_field written.beginsLike (.of_valid fun field valid =>
            refuses_field_lacking ((decides_field _ field).mp valid) required written) position
      | _ => cases required

/-- A document that denotes a snapshot is refused once a misfit stands in the place of one of its
values, and the error names the site of the value, whatever comes behind it. -/
theorem Snapshot.misfit_located {tree value : Tree} {snapshot : Snapshot} {site : Site}
    {before lead text : List Char} (denotes : DenotesSnapshot tree snapshot)
    (blanks : AreBlanks before) (leads : Leads tree site.path value lead)
    (misfit : site.Misfit value text) (rest : List Char) :
    ∃ failure,
      Snapshot.parse (String.ofList (before ++ (lead ++ (text ++ rest)))) .json = .error failure ∧
        failure.path.render = site.name := by
  have valid := (decides_snapshot tree snapshot).mpr denotes
  obtain ⟨fault, failed, here⟩ := misfit.locates rest valid blanks leads
  refine ⟨fault.failure (before ++ (lead ++ (text ++ rest))), ?_, ?_⟩
  · rw [Snapshot.parse, parseSnapshot, String.toList_ofList, failed]
  · rw [← site.render_path, ← here]
    rfl

end Sites

def twoCollections : Tree :=
  .object [("collections", .list
      [.object [("collection", .text "a")], .object [("collection", .text "b")]]),
    ("fields", .list [])]

/-- First the name is a number and the text goes wrong after it, then there is no name. -/
theorem Snapshot.misfit_located_in_second_collection :
    (∃ failure,
      Snapshot.parse "\x7b\"collections\":[\x7b\"collection\":\"a\"\x7d, \x7b\"collection\":7]"
          .json = .error failure ∧
        failure.path.render = "collections[1].collection") ∧
      ∃ failure,
        Snapshot.parse "\x7b\"collections\":[\x7b\"collection\":\"a\"\x7d, \x7b\x7d\x7d"
            .json = .error failure ∧
          failure.path.render = "collections[1]" := by
  have denotes : DenotesSnapshot twoCollections ⟨["a", "b"], []⟩ :=
    .object rfl rfl (.cons (.object rfl) (.cons (.object rfl) .nil)) .nil
  have blank : AreBlanks [' '] := by decide
  have first : Written (.object [("collection", .text "a")]) _ :=
    .object (.first areBlanks_nil (.entry areBlanks_nil areBlanks_nil (.text "a"))
      (.finished areBlanks_nil))
  have second : Leads twoCollections (Site.collection 1).path (.object [("collection", .text "b")])
      "\x7b\"collections\":[\x7b\"collection\":\"a\"\x7d, ".toList :=
    .entry rfl (.here (.first areBlanks_nil)) areBlanks_nil areBlanks_nil
      (.element rfl (.after (.first areBlanks_nil) first (.here (.next areBlanks_nil blank))) .here)
  have name : Leads twoCollections (Site.collectionName 1).path (.text "b")
      "\x7b\"collections\":[\x7b\"collection\":\"a\"\x7d, \x7b\"collection\":".toList :=
    .entry rfl (.here (.first areBlanks_nil)) areBlanks_nil areBlanks_nil
      (.element rfl (.after (.first areBlanks_nil) first (.here (.next areBlanks_nil blank)))
        (.entry rfl (.here (.first areBlanks_nil)) areBlanks_nil areBlanks_nil .here))
  have seven : BeginsLike .number ['7'] :=
    .char (rfl : (Tree.number ⟨false, ['0'], [], [], .zero, .absent, .absent⟩).kind = _) (.inr rfl)
  have otherKind : Kind.number ≠ .text := by decide
  have wrong : (Site.collectionName 1).Misfit (.text "b") ['7'] := .kind otherKind seven
  have lacking : (Site.collection 1).Misfit (.object [("collection", .text "b")]) ['{', '}'] :=
    .lacking rfl (List.mem_singleton_self "collection") (.object (.finished areBlanks_nil))
  exact ⟨Snapshot.misfit_located denotes areBlanks_nil name wrong [']'],
    Snapshot.misfit_located denotes areBlanks_nil second lacking ['}']⟩

end SnapshotTypes
