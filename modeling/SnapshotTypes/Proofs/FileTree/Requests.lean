import SnapshotTypes.Proofs.FileTree.Walking
import Mathlib.Data.List.Basic

/-!
# Requests on a tree of files

When a request is granted, and with which tree. A path that is located stays located in a tree that
retains what the first one has.
-/

set_option autoImplicit false

namespace SnapshotTypes.FileTree

variable {tree later : FileTree} {path : FilePath} {place : Place} {name : String}

/-!
## Located paths
-/

theorem locate_eq_ok_iff :
    tree.locate path = .ok place ↔
      pathFault? path = none ∧ tree.Walks (tree.origin path) path.steps place ∧
        (path.endsInSlash = true → tree.isDirectoryAt place = true) := by
  rw [← followAll_eq_ok_iff, locate]
  cases pathFault? path with
  | some fault => simp
  | none =>
      cases tree.followAll (tree.origin path) path.steps with
      | error refusal => simp
      | ok reached =>
          simp only [true_and, Except.ok.injEq]
          cases slash : path.endsInSlash with
          | false => simp
          | true =>
              constructor
              · intro located
                cases directory : tree.isDirectoryAt reached with
                | false => simp [directory] at located
                | true =>
                    have same : reached = place := by simpa [directory] using located
                    exact ⟨same, fun _ => same ▸ directory⟩
              · intro given
                obtain ⟨rfl, directory⟩ := given
                simp [directory rfl]

theorem isDirectory_iff :
    tree.isDirectory path = true ↔
      ∃ place, tree.locate path = .ok place ∧ tree.isDirectoryAt place = true := by
  unfold isDirectory
  cases tree.locate path <;> simp

theorem content_eq_ok_iff {bytes : ByteArray} :
    tree.content path = .ok bytes ↔
      ∃ place, tree.locate path = .ok place ∧ tree.node? place = some (.file bytes) := by
  unfold content
  cases tree.locate path with
  | error refusal => simp
  | ok place =>
      rcases present : tree.node? place with _ | _ | held
      · simp [present]
      · simp [present]
      · simp [present]

theorem text_eq_ok_iff {source : String} :
    tree.text path = .ok source ↔
      ∃ bytes, tree.content path = .ok bytes ∧ String.fromUTF8? bytes = some source := by
  unfold text
  cases tree.content path with
  | error refusal => simp
  | ok bytes =>
      cases decoded : String.fromUTF8? bytes with
      | none => simp [decoded]
      | some held => simp [decoded]

theorem Retains.locate (retains : later.Retains tree) (located : tree.locate path = .ok place) :
    later.locate path = .ok place := by
  obtain ⟨fault, walk, ends⟩ := locate_eq_ok_iff.mp located
  refine locate_eq_ok_iff.mpr ⟨fault, ?_, fun slash => retains.isDirectoryAt (ends slash)⟩
  rw [retains.origin]
  exact retains.walks walk

theorem Retains.isDirectory (retains : later.Retains tree) (there : tree.isDirectory path = true) :
    later.isDirectory path = true := by
  obtain ⟨place, located, directory⟩ := isDirectory_iff.mp there
  exact isDirectory_iff.mpr ⟨place, retains.locate located, retains.isDirectoryAt directory⟩

/-!
## Entries
-/

/-- A path that ends in a name, in a directory that is there. -/
structure Entry (tree : FileTree) (path : FilePath) (place : Place) (name : String) : Prop where
  fault : pathFault? path = none
  walk : tree.Walks (tree.origin path) path.steps.dropLast place
  directory : tree.isDirectoryAt place = true
  last : path.steps.getLast? = some name
  plain : name ≠ "." ∧ name ≠ ".."

theorem destination_eq_ok_some_iff :
    tree.destination path = .ok (place, some name) ↔ tree.Entry path place name := by
  unfold destination
  constructor
  · intro found
    cases fault : pathFault? path with
    | some reason => simp [fault] at found
    | none =>
        cases walked : tree.followAll (tree.origin path) path.steps.dropLast with
        | error refusal => simp [fault, walked] at found
        | ok reached =>
            simp only [fault, walked] at found
            cases directory : tree.isDirectoryAt reached with
            | false => simp [directory] at found
            | true =>
                cases last : path.steps.getLast? with
                | none => simp [directory, last] at found
                | some ending =>
                    by_cases dots : ending = "." ∨ ending = ".."
                    · simp [directory, last, dots] at found
                    · have same : reached = place ∧ ending = name := by
                        simpa [directory, last, dots] using found
                      obtain ⟨rfl, rfl⟩ := same
                      exact ⟨fault, followAll_eq_ok_iff.mp walked, directory, last, not_or.mp dots⟩
  · intro entry
    have dots : ¬ (name = "." ∨ name = "..") := not_or.mpr entry.plain
    simp [entry.fault, followAll_eq_ok_iff.mpr entry.walk, entry.directory, entry.last, dots]

theorem destination_of_dots (fault : pathFault? path = none)
    (walk : tree.Walks (tree.origin path) path.steps.dropLast place)
    (directory : tree.isDirectoryAt place = true)
    (dots : ∀ ending, path.steps.getLast? = some ending → ending = "." ∨ ending = "..") :
    tree.destination path = .ok (place, none) := by
  unfold destination
  cases last : path.steps.getLast? with
  | none => simp [fault, followAll_eq_ok_iff.mpr walk, directory]
  | some ending => simp [fault, followAll_eq_ok_iff.mpr walk, directory, dots ending last]

theorem Entry.steps (entry : tree.Entry path place name) :
    path.steps = path.steps.dropLast ++ [name] :=
  (List.dropLast_append_getLast? name entry.last).symm

theorem Retains.entry (retains : later.Retains tree) (entry : tree.Entry path place name) :
    later.Entry path place name := by
  refine ⟨entry.fault, ?_, retains.isDirectoryAt entry.directory, entry.last, entry.plain⟩
  rw [retains.origin]
  exact retains.walks entry.walk

/-- An entry that is there is where its path leads. -/
theorem Entry.walks (entry : tree.Entry path place name) (fits : name.utf8ByteSize ≤ longestName)
    {node : FileNode} (there : tree.node? (place ++ [name]) = some node) :
    tree.Walks (tree.origin path) path.steps (place ++ [name]) := by
  rw [entry.steps]
  exact entry.walk.concat (.enter entry.directory entry.plain.1 entry.plain.2 fits there)

theorem Entry.locate (entry : tree.Entry path place name) (fits : name.utf8ByteSize ≤ longestName)
    {node : FileNode} (there : tree.node? (place ++ [name]) = some node)
    (ends : path.endsInSlash = true → tree.isDirectoryAt (place ++ [name]) = true) :
    tree.locate path = .ok (place ++ [name]) :=
  locate_eq_ok_iff.mpr ⟨entry.fault, entry.walks fits there, ends⟩

/-!
## Granted requests
-/

/-- What a computation gives on a tree, and the tree it leaves. -/
def run {α : Type} (tree : FileTree) (computation : StateM FileTree α) : α × FileTree :=
  Id.run (computation.run tree)

@[simp] theorem run_pure {α : Type} (tree : FileTree) (value : α) :
    tree.run (pure value) = (value, tree) := rfl

@[simp] theorem run_bind {α β : Type} (tree : FileTree) (first : StateM FileTree α)
    (next : α → StateM FileTree β) :
    tree.run (first >>= next) = (tree.run first).2.run (next (tree.run first).1) := rfl

@[simp] theorem run_readText (tree : FileTree) (path : FilePath) :
    tree.run (access.readText path) = (tree.text path, tree) := rfl

@[simp] theorem run_isDirectory (tree : FileTree) (path : FilePath) :
    tree.run (access.isDirectory path) = (tree.isDirectory path, tree) := rfl

/-- A refused request leaves the tree as it is. -/
theorem run_keepOr (tree : FileTree) (result : Except FileError FileTree) :
    tree.run (keepOr result) =
      match result with
      | .ok later => (.ok (), later)
      | .error refusal => (.error refusal, tree) := by
  cases result <;> rfl

theorem run_makeDirectory (tree : FileTree) (path : FilePath) :
    tree.run (access.makeDirectory path) =
      match tree.makeDirectory path with
      | .ok later => (.ok (), later)
      | .error refusal => (.error refusal, tree) :=
  run_keepOr tree (tree.makeDirectory path)

theorem run_writeText (tree : FileTree) (path : FilePath) (text : String) :
    tree.run (access.writeText path text) =
      match tree.write path text.toUTF8 with
      | .ok later => (.ok (), later)
      | .error refusal => (.error refusal, tree) :=
  run_keepOr tree (tree.write path text.toUTF8)

theorem makeDirectory_eq_ok_iff :
    tree.makeDirectory path = .ok later ↔
      ∃ place name, tree.Entry path place name ∧ name.utf8ByteSize ≤ longestName ∧
        tree.node? (place ++ [name]) = none ∧
        later = tree.put (place ++ [name]) .directory := by
  constructor
  · intro made
    unfold makeDirectory at made
    cases found : tree.destination path with
    | error refusal => simp [found] at made
    | ok reached =>
        obtain ⟨place, name?⟩ := reached
        cases name? with
        | none => simp [found] at made
        | some name =>
            by_cases long : longestName < name.utf8ByteSize
            · simp [found, long] at made
            · cases there : tree.node? (place ++ [name]) with
              | some node => simp [found, long, there] at made
              | none =>
                  have put : tree.put (place ++ [name]) .directory = later := by
                    simpa [found, long, there] using made
                  exact ⟨place, name, destination_eq_ok_some_iff.mp found,
                    Nat.not_lt.mp long, there, put.symm⟩
  · intro given
    obtain ⟨place, name, entry, fits, free, rfl⟩ := given
    simp [makeDirectory, destination_eq_ok_some_iff.mpr entry, Nat.not_lt.mpr fits, free]

theorem write_eq_ok_iff {bytes : ByteArray} :
    tree.write path bytes = .ok later ↔
      ∃ place name, tree.Entry path place name ∧ path.endsInSlash = false ∧
        name.utf8ByteSize ≤ longestName ∧ tree.isDirectoryAt (place ++ [name]) = false ∧
        later = tree.put (place ++ [name]) (.file bytes) := by
  constructor
  · intro written
    unfold write at written
    cases found : tree.destination path with
    | error refusal => simp [found] at written
    | ok reached =>
        obtain ⟨place, name?⟩ := reached
        cases name? with
        | none => simp [found] at written
        | some name =>
            cases slash : path.endsInSlash with
            | true => simp [found, slash] at written
            | false =>
                by_cases long : longestName < name.utf8ByteSize
                · simp [found, slash, long] at written
                · cases directory : tree.isDirectoryAt (place ++ [name]) with
                  | true => simp [found, slash, long, directory] at written
                  | false =>
                      have put : tree.put (place ++ [name]) (.file bytes) = later := by
                        simpa [found, slash, long, directory] using written
                      exact ⟨place, name, destination_eq_ok_some_iff.mp found, rfl,
                        Nat.not_lt.mp long, directory, put.symm⟩
  · intro given
    obtain ⟨place, name, entry, slash, fits, directory, rfl⟩ := given
    simp [write, destination_eq_ok_some_iff.mpr entry, slash, Nat.not_lt.mpr fits, directory]

theorem exists_put_of_write {bytes : ByteArray} (written : tree.write path bytes = .ok later) :
    ∃ place, place ≠ [] ∧ tree.isDirectoryAt place = false ∧
      later = tree.put place (.file bytes) ∧ later.Retains tree ∧
      later.locate path = .ok place := by
  obtain ⟨parent, name, entry, slash, fits, free, rfl⟩ := write_eq_ok_iff.mp written
  have below : parent ++ [name] ≠ [] := by simp
  have retains : (tree.put (parent ++ [name]) (.file bytes)).Retains tree :=
    retains_put below fun old present => by
      rw [isDirectoryAt, present] at free
      exact free.symm
  have there := node?_put_self tree below (.file bytes)
  refine ⟨parent ++ [name], below, free, rfl, retains, ?_⟩
  refine (retains.entry entry).locate fits there fun ends => ?_
  rw [slash] at ends
  cases ends

/-- Writing the same once more is granted and changes nothing. -/
theorem write_written {bytes : ByteArray} (written : tree.write path bytes = .ok later) :
    later.write path bytes = .ok later := by
  obtain ⟨parent, name, entry, slash, fits, _, same⟩ := write_eq_ok_iff.mp written
  obtain ⟨_, _, _, _, retains, _⟩ := exists_put_of_write written
  have below : parent ++ [name] ≠ [] := by simp
  have there : later.node? (parent ++ [name]) = some (.file bytes) := by
    rw [same, node?_put_self tree below]
  refine write_eq_ok_iff.mpr ⟨parent, name, retains.entry entry, slash, fits, ?_, ?_⟩
  · rw [isDirectoryAt, there]
    rfl
  · exact (put_of_node? below there).symm

/-- A path of a directory ends in dots or in the name of an entry. -/
theorem destination_of_isDirectory (there : tree.isDirectory path = true) :
    (∃ place, tree.destination path = .ok (place, none)) ∨
      ∃ place name node, tree.Entry path place name ∧ name.utf8ByteSize ≤ longestName ∧
        tree.node? (place ++ [name]) = some node := by
  obtain ⟨place, located, directory⟩ := isDirectory_iff.mp there
  obtain ⟨fault, walk, _⟩ := locate_eq_ok_iff.mp located
  rcases List.eq_nil_or_concat' path.steps with empty | ⟨taken, ending, steps⟩
  · have before : tree.Walks (tree.origin path) path.steps.dropLast place := by
      rw [empty] at walk ⊢
      exact walk
    refine .inl ⟨place, destination_of_dots fault before directory ?_⟩
    intro ending last
    rw [empty] at last
    cases last
  · have dropped : path.steps.dropLast = taken := by rw [steps]; simp
    have last : path.steps.getLast? = some ending := by rw [steps]; simp
    rw [steps] at walk
    obtain ⟨middle, before, after⟩ := walk.split
    rw [← dropped] at before
    have dots (moves : ending = "." ∨ ending = "..") (inside : tree.isDirectoryAt middle = true) :
        tree.destination path = .ok (middle, none) := by
      refine destination_of_dots fault before inside fun other same => ?_
      rw [last, Option.some.injEq] at same
      exact same ▸ moves
    -- What the last step does tells the two cases apart.
    cases after with
    | step follows done =>
        cases follows with
        | stay inside => exact .inl ⟨middle, dots (.inl rfl) inside⟩
        | up inside => exact .inl ⟨middle, dots (.inr rfl) inside⟩
        | enter inside stays rises fits found =>
            exact .inr ⟨middle, ending, _, ⟨fault, before, inside, last, stays, rises⟩, fits, found⟩

/-- A directory that is there is not made again. -/
theorem makeDirectory_of_isDirectory (there : tree.isDirectory path = true) :
    tree.makeDirectory path = .error .alreadyThere := by
  unfold makeDirectory
  rcases destination_of_isDirectory there with
    ⟨place, here⟩ | ⟨place, name, node, entry, fits, found⟩
  · rw [here]
  · rw [destination_eq_ok_some_iff.mpr entry]
    simp [Nat.not_lt.mpr fits, found]

end SnapshotTypes.FileTree
