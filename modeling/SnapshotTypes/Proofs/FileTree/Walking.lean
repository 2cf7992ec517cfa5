import SnapshotTypes.FileTree
import SnapshotTypes.KeyedList

/-!
# Walking through a tree of files

Where the steps of a path lead, as a relation beside the functions that follow them. A walk needs
only that the directories on its way are there: it leads to the same place in every tree that has
them too, whatever else that tree holds.
-/

set_option autoImplicit false

namespace SnapshotTypes

namespace FileTree

variable {tree later : FileTree} {place next : Place} {path : FilePath}

/-!
## Nodes
-/

@[simp] theorem node?_root (tree : FileTree) : tree.node? [] = some .directory := rfl

theorem node?_put (tree : FileTree) {place : Place} (below : place ≠ []) (node : FileNode)
    (other : Place) :
    (tree.put place node).node? other =
      if other = place then some node else tree.node? other := by
  by_cases root : other = []
  · subst root
    simp [Ne.symm below]
  · rw [node?, node?, if_neg root, if_neg root]
    exact KeyedList.lookup_insert place other node tree.nodes

theorem node?_put_self (tree : FileTree) {place : Place} (below : place ≠ []) (node : FileNode) :
    (tree.put place node).node? place = some node := by
  rw [node?_put tree below, if_pos rfl]

theorem node?_put_of_ne (tree : FileTree) {place other : Place} (below : place ≠ [])
    (node : FileNode) (apart : other ≠ place) :
    (tree.put place node).node? other = tree.node? other := by
  rw [node?_put tree below, if_neg apart]

theorem put_of_node? (below : place ≠ []) {node : FileNode}
    (there : tree.node? place = some node) : tree.put place node = tree := by
  rw [node?, if_neg below] at there
  rw [put, KeyedList.insert_of_lookup there]

theorem isDirectoryAt_iff :
    tree.isDirectoryAt place = true ↔ tree.node? place = some .directory := by
  unfold isDirectoryAt
  cases tree.node? place with
  | none => simp
  | some node => cases node <;> simp [FileNode.isDirectory]

/-!
## Walks
-/

/-- One step of a walk. Only directories are left, upwards too. -/
inductive Follows (tree : FileTree) (place : Place) : String → Place → Prop where
  | stay : tree.isDirectoryAt place = true → Follows tree place "." place
  | up : tree.isDirectoryAt place = true → Follows tree place ".." place.dropLast
  | enter {name : String} {node : FileNode} : tree.isDirectoryAt place = true →
      name ≠ "." → name ≠ ".." → name.utf8ByteSize ≤ longestName →
      tree.node? (place ++ [name]) = some node → Follows tree place name (place ++ [name])

inductive Walks (tree : FileTree) : Place → List String → Place → Prop where
  | done {first : Place} : Walks tree first [] first
  | step {place next last : Place} {step : String} {rest : List String} :
      Follows tree place step next → Walks tree next rest last →
      Walks tree place (step :: rest) last

theorem follow_eq_ok_iff {step : String} :
    tree.follow place step = .ok next ↔ tree.Follows place step next := by
  unfold follow
  constructor
  · intro followed
    cases directory : tree.isDirectoryAt place with
    | false => simp [directory] at followed
    | true =>
        simp only [directory, Bool.not_true, Bool.false_eq_true, ↓reduceIte] at followed
        split at followed
        · rename_i stays
          cases followed
          subst stays
          exact .stay directory
        · rename_i moves
          split at followed
          · rename_i rises
            cases followed
            subst rises
            exact .up directory
          · rename_i sinks
            split at followed
            · cases followed
            · rename_i fits
              cases found : tree.node? (place ++ [step]) with
              | none =>
                  rw [found] at followed
                  cases followed
              | some node =>
                  rw [found] at followed
                  cases followed
                  exact .enter directory moves sinks (Nat.not_lt.mp fits) found
  · intro follows
    cases follows with
    | stay directory => simp [directory]
    | up directory => simp [directory]
    | enter directory moves sinks fits found =>
        simp [directory, moves, sinks, Nat.not_lt.mpr fits, found]

theorem followAll_eq_ok_iff {steps : List String} {last : Place} :
    tree.followAll place steps = .ok last ↔ tree.Walks place steps last := by
  induction steps generalizing place with
  | nil =>
      rw [followAll, Except.ok.injEq]
      constructor
      · rintro rfl
        exact .done
      · intro walk
        cases walk
        rfl
  | cons step rest ih =>
      rw [followAll]
      constructor
      · intro followed
        cases first : tree.follow place step with
        | error refusal =>
            rw [first] at followed
            cases followed
        | ok middle =>
            rw [first] at followed
            exact .step (follow_eq_ok_iff.mp first) (ih.mp followed)
      · intro walk
        cases walk with
        | step first others =>
            rw [follow_eq_ok_iff.mpr first]
            exact ih.mpr others

theorem Walks.append {first middle last : Place} {taken rest : List String}
    (walk : tree.Walks first taken middle) (further : tree.Walks middle rest last) :
    tree.Walks first (taken ++ rest) last := by
  induction walk with
  | done => exact further
  | step follows _ ih => exact .step follows (ih further)

theorem Walks.concat {first middle last : Place} {taken : List String} {step : String}
    (walk : tree.Walks first taken middle) (follows : tree.Follows middle step last) :
    tree.Walks first (taken ++ [step]) last :=
  walk.append (.step follows .done)

theorem Walks.split {first last : Place} {taken rest : List String}
    (walk : tree.Walks first (taken ++ rest) last) :
    ∃ middle, tree.Walks first taken middle ∧ tree.Walks middle rest last := by
  induction taken generalizing first with
  | nil => exact ⟨first, .done, walk⟩
  | cons step taken ih =>
      cases walk with
      | step follows others =>
          obtain ⟨middle, before, after⟩ := ih others
          exact ⟨middle, .step follows before, after⟩

/-!
## Trees that have the same directories and more
-/

/-- A tree that keeps every place of another, with the same kind of node. A file may have other
content. -/
structure Retains (later tree : FileTree) : Prop where
  start : later.start = tree.start
  kinds : ∀ place node, tree.node? place = some node →
    ∃ kept, later.node? place = some kept ∧ kept.isDirectory = node.isDirectory

theorem Retains.refl (tree : FileTree) : tree.Retains tree :=
  ⟨rfl, fun _ node there => ⟨node, there, rfl⟩⟩

theorem Retains.trans {last : FileTree} (outer : last.Retains later) (inner : later.Retains tree) :
    last.Retains tree := by
  refine ⟨outer.start.trans inner.start, fun place node there => ?_⟩
  obtain ⟨kept, still, same⟩ := inner.kinds place node there
  obtain ⟨final, there, again⟩ := outer.kinds place kept still
  exact ⟨final, there, again.trans same⟩

theorem Retains.isDirectoryAt (retains : later.Retains tree)
    (directory : tree.isDirectoryAt place = true) : later.isDirectoryAt place = true := by
  obtain ⟨kept, still, same⟩ := retains.kinds place .directory (isDirectoryAt_iff.mp directory)
  rw [FileTree.isDirectoryAt, still]
  exact same

theorem Retains.follows (retains : later.Retains tree) {step : String}
    (follows : tree.Follows place step next) : later.Follows place step next := by
  cases follows with
  | stay directory => exact .stay (retains.isDirectoryAt directory)
  | up directory => exact .up (retains.isDirectoryAt directory)
  | enter directory moves sinks fits found =>
      obtain ⟨_, still, _⟩ := retains.kinds _ _ found
      exact .enter (retains.isDirectoryAt directory) moves sinks fits still

theorem Retains.walks (retains : later.Retains tree) {steps : List String} {last : Place}
    (walk : tree.Walks place steps last) : later.Walks place steps last := by
  induction walk with
  | done => exact .done
  | step follows _ ih => exact .step (retains.follows follows) ih

theorem Retains.origin (retains : later.Retains tree) (path : FilePath) :
    later.origin path = tree.origin path := by
  rw [FileTree.origin, FileTree.origin, retains.start]

/-- Placing a node keeps what is there, unless a directory becomes a file or a file a directory. -/
theorem retains_put (below : place ≠ []) {node : FileNode}
    (alike : ∀ old, tree.node? place = some old → node.isDirectory = old.isDirectory) :
    (tree.put place node).Retains tree := by
  refine ⟨rfl, fun other old there => ?_⟩
  by_cases same : other = place
  · subst same
    exact ⟨node, node?_put_self tree below node, alike old there⟩
  · exact ⟨old, (node?_put_of_ne tree below node same).trans there, rfl⟩

end FileTree

end SnapshotTypes
