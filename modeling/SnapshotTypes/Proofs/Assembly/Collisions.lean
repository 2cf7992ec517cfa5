import SnapshotTypes.Proofs.Assembly.Clashes

/-!
# Which collisions are reported

A collection is reported if one before it has the same type name, together with the nearest one that
has. So the reports about one type name lead through all of its collections, and there is one report
for each collection that brings no type name of its own.
-/

set_option autoImplicit false

namespace SnapshotTypes

/-!
## Namesakes among names
-/

def HasEarlierNamesake (names : List String) (second : String) : Prop :=
  ∃ before after, names = before ++ second :: after ∧
    ∃ first ∈ before, typeName first = typeName second

/-- Two names with one type name, and no other name between them that has it too. -/
def AreNearestNamesakes (names : List String) (first second : String) : Prop :=
  ∃ before between after, names = before ++ first :: (between ++ second :: after) ∧
    typeName first = typeName second ∧ ∀ other ∈ between, typeName other ≠ typeName second

/-- A report for each name of a group but the first one. -/
def chained (shared : String) (group : List String) : List NameCollision :=
  (group.zip group.tail).map fun pair => ⟨shared, pair.1, pair.2⟩

theorem chained_concat (shared : String) (group : List String) (name : String) :
    chained shared (group ++ [name]) =
      chained shared group ++ (group.getLast?.map fun last => ⟨shared, last, name⟩).toList := by
  induction group with
  | nil => rfl
  | cons first rest ih =>
      cases rest with
      | nil => rfl
      | cons second rest =>
          have later : chained shared (first :: second :: rest ++ [name]) =
              ⟨shared, first, second⟩ :: chained shared (second :: rest ++ [name]) := rfl
          rw [later, ih, List.getLast?_cons_cons]
          rfl

theorem length_chained (shared : String) (group : List String) :
    (chained shared group).length = group.length - 1 := by
  rw [chained, List.length_map, List.length_zip, List.length_tail]
  omega

/-- The last of some names that has the type name of a further one. -/
def lastNamesake? (names : List String) (name : String) : Option String :=
  (names.filter fun other => typeName other = typeName name).getLast?

theorem lastNamesake?_eq_none_iff {names : List String} {name : String} :
    lastNamesake? names name = none ↔ typeName name ∉ names.map typeName := by
  rw [lastNamesake?, List.getLast?_eq_none_iff, List.filter_eq_nil_iff, List.mem_map]
  constructor
  · intro none found
    obtain ⟨other, present, same⟩ := found
    exact none other present (decide_eq_true same)
  · intro none other present same
    exact none ⟨other, present, of_decide_eq_true same⟩

theorem lastNamesake?_eq_some_iff {names : List String} {name first : String} :
    lastNamesake? names name = some first ↔
      ∃ before between, names = before ++ first :: between ∧ typeName first = typeName name ∧
        ∀ other ∈ between, typeName other ≠ typeName name := by
  have found : lastNamesake? names name =
      names.reverse.find? fun other => typeName other = typeName name := by
    rw [lastNamesake?, ← List.head?_filter, List.filter_reverse, List.head?_reverse]
  rw [found, List.find?_eq_some_iff_append]
  constructor
  · intro given
    obtain ⟨same, between, before, split, others⟩ := given
    refine ⟨before.reverse, between.reverse, ?_, of_decide_eq_true same, ?_⟩
    · rw [← List.reverse_reverse names, split]
      simp
    · intro other present
      simpa using others other (List.mem_reverse.mp present)
  · intro given
    obtain ⟨before, between, rfl, same, others⟩ := given
    refine ⟨decide_eq_true same, between.reverse, before.reverse, by simp, ?_⟩
    intro other present
    simpa using others other (List.mem_reverse.mp present)

/-!
## The pass over the records
-/

/-- The collisions among names, where `earlier` stand before all of them. -/
def collisionsAmong (earlier : List String) : List String → List NameCollision
  | [] => []
  | name :: rest =>
    ((lastNamesake? earlier name).map fun first => ⟨typeName name, first, name⟩).toList ++
      collisionsAmong (earlier ++ [name]) rest

theorem lookup_seen (earlier : List String) (name : String) :
    List.lookup (typeName name) (earlier.reverse.map fun other => (typeName other, other)) =
      lastNamesake? earlier name := by
  rw [lastNamesake?, ← List.head?_reverse, ← List.filter_reverse, List.head?_filter]
  induction earlier.reverse with
  | nil => rfl
  | cons other rest ih =>
      rw [List.map_cons]
      by_cases same : typeName other = typeName name
      · simp [same]
      · rw [KeyedList.lookup_cons_of_ne (Ne.symm same), ih]
        simp [same]

/-- The names seen before are kept with the latest one first, so that the latest is found. -/
theorem Snapshot.Tabulates.collisionsAfter_eq {snapshot : Snapshot} {names : List String}
    {table : RecordTable} (tabulated : snapshot.Tabulates names table) (earlier : List String) :
    collisionsAfter (earlier.reverse.map fun other => (typeName other, other)) table =
      collisionsAmong earlier names := by
  induction tabulated generalizing earlier with
  | nil => rfl
  | @cons name entry names table head _ ih =>
      obtain ⟨collection, record⟩ := entry
      obtain ⟨rfl, recorded⟩ := head
      have named : record.name = typeName collection := (record_eq_ok_iff.mp recorded).name
      have later := ih (earlier ++ [collection])
      rw [List.reverse_append, List.reverse_singleton, List.singleton_append,
        List.map_cons] at later
      rw [collisionsAfter, collisionsAmong, named, lookup_seen, ← later]
      cases lastNamesake? earlier collection <;> rfl

theorem collisionsAmong_concat (earlier names : List String) (name : String) :
    collisionsAmong earlier (names ++ [name]) = collisionsAmong earlier names ++
      ((lastNamesake? (earlier ++ names) name).map
        fun first => (⟨typeName name, first, name⟩ : NameCollision)).toList := by
  induction names generalizing earlier with
  | nil => simp [collisionsAmong]
  | cons first names ih =>
      rw [List.cons_append, collisionsAmong, ih, collisionsAmong]
      simp

/-!
## What is reported

Each of these is an induction on the names from their end: a further name adds one report at most.
-/

variable {names : List String}

theorem areNearestNamesakes_concat {name first second : String} :
    AreNearestNamesakes (names ++ [name]) first second ↔
      AreNearestNamesakes names first second ∨
        lastNamesake? names name = some first ∧ second = name := by
  constructor
  · intro nearest
    obtain ⟨before, between, after, split, same, others⟩ := nearest
    rcases List.eq_nil_or_concat' after with rfl | ⟨after, last, rfl⟩
    · rw [← List.cons_append, ← List.append_assoc] at split
      obtain ⟨rfl, ends⟩ := List.append_inj' split rfl
      obtain rfl := List.singleton_inj.mp ends
      exact .inr ⟨lastNamesake?_eq_some_iff.mpr ⟨before, between, rfl, same, others⟩, rfl⟩
    · rw [← List.cons_append, ← List.append_assoc, ← List.cons_append, ← List.append_assoc] at split
      obtain ⟨rfl, _⟩ := List.append_inj' split rfl
      exact .inl ⟨before, between, after, by simp, same, others⟩
  · intro given
    rcases given with ⟨before, between, after, rfl, same, others⟩ | ⟨found, rfl⟩
    · exact ⟨before, between, after ++ [name], by simp, same, others⟩
    · obtain ⟨before, between, rfl, same, others⟩ := lastNamesake?_eq_some_iff.mp found
      exact ⟨before, between, [], by simp, same, others⟩

theorem mem_collisionsAmong_iff {collision : NameCollision} :
    collision ∈ collisionsAmong [] names ↔
      collision.typeName = typeName collision.second ∧
        AreNearestNamesakes names collision.first collision.second := by
  induction names using List.reverseRecOn with
  | nil => simp [collisionsAmong, AreNearestNamesakes]
  | append_singleton names name ih =>
      obtain ⟨shared, first, second⟩ := collision
      have added : (⟨shared, first, second⟩ : NameCollision) ∈ ((lastNamesake? names name).map
            fun first => (⟨typeName name, first, name⟩ : NameCollision)).toList ↔
          shared = typeName second ∧ lastNamesake? names name = some first ∧ second = name := by
        cases lastNamesake? names name <;> grind
      rw [collisionsAmong_concat, List.mem_append, ih, List.nil_append, added,
        areNearestNamesakes_concat, ← and_or_left]

theorem mem_map_second_iff {second : String} :
    second ∈ (collisionsAmong [] names).map NameCollision.second ↔
      HasEarlierNamesake names second := by
  constructor
  · intro reported
    obtain ⟨collision, present, rfl⟩ := List.mem_map.mp reported
    obtain ⟨before, between, after, split, same, _⟩ := (mem_collisionsAmong_iff.mp present).2
    exact ⟨before ++ collision.first :: between, after, by simp [split], collision.first, by simp,
      same⟩
  · intro given
    obtain ⟨before, after, rfl, first, present, same⟩ := given
    cases found : lastNamesake? before second with
    | none =>
        have known := List.mem_map_of_mem (f := typeName) present
        rw [same] at known
        exact absurd known (lastNamesake?_eq_none_iff.mp found)
    | some last =>
        obtain ⟨start, between, rfl, same, others⟩ := lastNamesake?_eq_some_iff.mp found
        exact List.mem_map.mpr ⟨⟨typeName second, last, second⟩, mem_collisionsAmong_iff.mpr
          ⟨rfl, start, between, after, by simp, same, others⟩, rfl⟩

theorem map_second_sublist (earlier names : List String) :
    ((collisionsAmong earlier names).map NameCollision.second).Sublist names := by
  induction names generalizing earlier with
  | nil => exact .slnil
  | cons name names ih =>
      rw [collisionsAmong, List.map_append]
      cases lastNamesake? earlier name with
      | none => exact (ih (earlier ++ [name])).cons name
      | some first => exact (ih (earlier ++ [name])).cons_cons name

theorem length_collisionsAmong (names : List String) :
    (collisionsAmong [] names).length + (names.map typeName).eraseDups.length = names.length := by
  induction names using List.reverseRecOn with
  | nil => rfl
  | append_singleton names name ih =>
      rw [collisionsAmong_concat, List.nil_append, List.length_append, List.map_append,
        List.map_singleton, List.length_append, List.length_singleton]
      cases found : lastNamesake? names name with
      | none =>
          have fresh := lastNamesake?_eq_none_iff.mp found
          rw [eraseDups_concat_of_not_mem fresh]
          simp only [Option.map_none, Option.toList_none, List.length_nil, List.length_append,
            List.length_singleton]
          omega
      | some first =>
          have known : typeName name ∈ names.map typeName := by
            by_contra fresh
            rw [lastNamesake?_eq_none_iff.mpr fresh] at found
            cases found
          rw [eraseDups_concat_of_mem known]
          simp only [Option.map_some, Option.toList_some, List.length_singleton]
          omega

theorem filter_collisionsAmong (names : List String) (shared : String) :
    (collisionsAmong [] names).filter (fun collision => collision.typeName = shared) =
      chained shared (names.filter fun name => typeName name = shared) := by
  induction names using List.reverseRecOn with
  | nil => rfl
  | append_singleton names name ih =>
      rw [collisionsAmong_concat, List.nil_append, List.filter_append, ih, List.filter_append]
      by_cases same : typeName name = shared
      · subst same
        rw [List.filter_cons_of_pos (by simp), List.filter_nil, chained_concat, ← lastNamesake?]
        cases lastNamesake? names name <;> simp
      · rw [List.filter_cons_of_neg (by simpa using same), List.filter_nil, List.append_nil]
        cases lastNamesake? names name <;> simp [same]

/-!
## Warnings
-/

/-- What is said about two collections of one type name. -/
def clashWarning (first second shared : String) : Log.Entry :=
  ⟨.warn, .assembly,
    s!"collections `{first}` and `{second}` both generate type `{shared}`"⟩

namespace Snapshot

variable {snapshot : Snapshot}

theorem filter_warnings (listed : List String) (skipped : List Field)
    (collisions : List NameCollision) :
    (listed.map snapshot.listingEntry ++ skipped.map orphanEntry ++
        collisions.map collisionEntry).filter (fun entry => entry.level = .warn) =
      collisions.map fun collision =>
        clashWarning collision.first collision.second collision.typeName := by
  have listings : (listed.map snapshot.listingEntry).filter (fun entry => entry.level = .warn) =
      [] := by
    simp [listingEntry]
  have skips : (skipped.map orphanEntry).filter (fun entry => entry.level = .warn) = [] := by
    simp [orphanEntry]
  have kept : (collisions.map collisionEntry).filter (fun entry => entry.level = .warn) =
      collisions.map collisionEntry := by
    simp [collisionEntry]
  rw [List.filter_append, List.filter_append, listings, skips, kept, List.nil_append]
  rfl

/-- The warnings of an assembly are the same in either layout. There is one for every collection
that has the type name of an earlier one, in the order of the collections, and it names the nearest
of these. So the collections of one type name are chained, and together there are as many warnings
as the type names are fewer than the collections. -/
theorem warnings_chain_namesakes {snapshot : Snapshot} {layout : Layout} {log : List Log.Entry}
    {file : DeclarationFile} (assembled : assemble snapshot layout = (log, .ok file)) :
    let names := snapshot.collections.eraseDups
    ∃ collisions : List NameCollision,
      (∀ other, ∃ arranged, assemble snapshot other = (log, .ok arranged)) ∧
      log.filter (fun entry => entry.level = .warn) = collisions.map (fun collision =>
        clashWarning collision.first collision.second collision.typeName) ∧
      (collisions.map NameCollision.second).Sublist names ∧
      (∀ second, second ∈ collisions.map NameCollision.second ↔ HasEarlierNamesake names second) ∧
      (∀ collision, collision ∈ collisions ↔
        collision.typeName = typeName collision.second ∧
          AreNearestNamesakes names collision.first collision.second) ∧
      (∀ shared,
        let group := names.filter fun name => typeName name = shared
        let warned := collisions.filter fun collision => collision.typeName = shared
        warned = chained shared group ∧ warned.length = group.length - 1) ∧
      collisions.length + (names.map typeName).eraseDups.length = names.length := by
  intro names
  obtain ⟨table, tabulated, rfl, rfl⟩ := exists_table_of_assemble assembled
  have reported : table.collisions = collisionsAmong [] names := tabulated.collisionsAfter_eq []
  have arranged := assemble_of_tabulates tabulated
  rw [reported] at arranged
  rw [reported]
  refine ⟨collisionsAmong [] names, fun other => ⟨_, arranged other⟩, filter_warnings _ _ _,
    map_second_sublist [] names, fun _ => mem_map_second_iff, fun _ => mem_collisionsAmong_iff,
    fun shared => ⟨filter_collisionsAmong names shared, ?_⟩, length_collisionsAmong names⟩
  rw [filter_collisionsAmong, length_chained]

/-- Three names of one type name and two of another, which come in turn. One of them is listed
twice, and one is capitalized to two letters. -/
theorem warnings_of_interleaved_namesakes :
    let snapshot : Snapshot :=
      ⟨["foobar", "ßa", "Foobar", "posts", "SSa", "foobar", "_foobar", "foo_bar"], []⟩
    ∃ log file, ∃ collisions : List NameCollision, assemble snapshot .nested = (log, .ok file) ∧
      log.filter (fun entry => entry.level = .warn) = collisions.map (fun collision =>
        clashWarning collision.first collision.second collision.typeName) ∧
      collisions.filter (fun collision => collision.typeName = "Foobar") =
        [⟨"Foobar", "foobar", "Foobar"⟩, ⟨"Foobar", "Foobar", "_foobar"⟩] ∧
      collisions.filter (fun collision => collision.typeName = "SSa") = [⟨"SSa", "ßa", "SSa"⟩] ∧
      collisions.length + 4 = 7 := by
  intro snapshot
  have assembled : assemble snapshot .nested = (_, .ok _) := rfl
  obtain ⟨collisions, _, lines, _, _, _, groups, count⟩ := warnings_chain_namesakes assembled
  have names : snapshot.collections.eraseDups =
      ["foobar", "ßa", "Foobar", "posts", "SSa", "_foobar", "foo_bar"] := by decide
  rw [names] at groups count
  exact ⟨_, _, collisions, assembled, lines, (groups "Foobar").1.trans (by decide),
    (groups "SSa").1.trans (by decide), count⟩

end Snapshot

end SnapshotTypes
