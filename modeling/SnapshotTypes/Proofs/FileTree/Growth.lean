import SnapshotTypes.Proofs.FilePath.Enclosing
import SnapshotTypes.Proofs.FileTree.Requests

/-!
# Directories made along a path

Making the directories of a path adds directories that the path passes and changes nothing else,
also where it is refused half-way. Where it is not refused, the path stands for a directory
afterwards, and making it again changes nothing.
-/

set_option autoImplicit false

namespace SnapshotTypes.FileTree

variable {tree later last : FileTree} {path directory : FilePath} {place : Place}

/-!
## Growth
-/

/-- The places a path passes, as far as it can be followed. -/
def Passes (tree : FileTree) (path : FilePath) (place : Place) : Prop :=
  ∃ taken, taken <+: path.steps ∧ tree.Walks (tree.origin path) taken place

/-- A tree that differs from another only by new directories, which a path passes. -/
structure Grows (later : FileTree) (path : FilePath) (tree : FileTree) : Prop where
  start : later.start = tree.start
  kept : ∀ place node, tree.node? place = some node → later.node? place = some node
  added : ∀ place node, tree.node? place = none → later.node? place = some node →
    node = .directory ∧ later.Passes path place

theorem Retains.passes (retains : later.Retains tree) (passes : tree.Passes path place) :
    later.Passes path place := by
  obtain ⟨taken, begins, walk⟩ := passes
  refine ⟨taken, begins, ?_⟩
  rw [retains.origin]
  exact retains.walks walk

theorem Grows.refl (path : FilePath) (tree : FileTree) : tree.Grows path tree := by
  refine ⟨rfl, fun _ _ there => there, fun place node absent there => ?_⟩
  rw [absent] at there
  cases there

theorem Grows.retains (grows : later.Grows path tree) : later.Retains tree :=
  ⟨grows.start, fun place node there => ⟨node, grows.kept place node there, rfl⟩⟩

theorem Grows.trans (outer : last.Grows path later) (inner : later.Grows path tree) :
    last.Grows path tree := by
  refine ⟨outer.start.trans inner.start,
    fun place node there => outer.kept place node (inner.kept place node there),
    fun place node absent there => ?_⟩
  -- A place that is new in the last tree is new in one of the two growths.
  cases between : later.node? place with
  | none => exact outer.added place node between there
  | some middle =>
      obtain ⟨rfl, passes⟩ := inner.added place middle absent between
      rw [outer.kept place .directory between, Option.some.injEq] at there
      exact ⟨there.symm, outer.retains.passes passes⟩

theorem grows_put (below : place ≠ []) (free : tree.node? place = none)
    (passes : (tree.put place .directory).Passes path place) :
    (tree.put place .directory).Grows path tree := by
  refine ⟨rfl, fun other node there => ?_, fun other node absent there => ?_⟩
  · have apart : other ≠ place := by
      rintro rfl
      rw [free] at there
      cases there
    rw [node?_put_of_ne tree below .directory apart]
    exact there
  · by_cases same : other = place
    · subst same
      rw [node?_put_self tree below, Option.some.injEq] at there
      exact ⟨there.symm, passes⟩
    · rw [node?_put_of_ne tree below .directory same, absent] at there
      cases there

/-!
## One directory
-/

/-- A new directory is where its path leads. -/
theorem exists_put_of_makeDirectory (made : tree.makeDirectory directory = .ok later) :
    ∃ place, place ≠ [] ∧ tree.node? place = none ∧ later = tree.put place .directory ∧
      later.Walks (later.origin directory) directory.steps place ∧
      later.locate directory = .ok place := by
  obtain ⟨parent, name, entry, fits, free, rfl⟩ := makeDirectory_eq_ok_iff.mp made
  have below : parent ++ [name] ≠ [] := by simp
  have there := node?_put_self tree below .directory
  have again : (tree.put (parent ++ [name]) .directory).Entry directory parent name :=
    (retains_put below fun old present => by
      rw [free] at present
      cases present).entry entry
  exact ⟨parent ++ [name], below, free, rfl, again.walks fits there,
    again.locate fits there fun _ => isDirectoryAt_iff.mpr there⟩

theorem makeDirectory_grows (made : tree.makeDirectory directory = .ok later)
    (precedes : directory.Precedes path) : later.Grows path tree := by
  obtain ⟨place, below, free, rfl, walk, _⟩ := exists_put_of_makeDirectory made
  have origin : (tree.put place .directory).origin directory =
      (tree.put place .directory).origin path := by
    rw [FileTree.origin, FileTree.origin, precedes.origin]
  rw [origin] at walk
  exact grows_put below free ⟨directory.steps, precedes.steps, walk⟩

theorem isDirectory_of_makeDirectory (made : tree.makeDirectory directory = .ok later) :
    later.isDirectory directory = true := by
  obtain ⟨place, below, _, rfl, _, located⟩ := exists_put_of_makeDirectory made
  exact isDirectory_iff.mpr
    ⟨place, located, isDirectoryAt_iff.mpr (node?_put_self tree below .directory)⟩

/-!
## All directories of a path
-/

/-- What is answered for a directory that could not be made. -/
def settled (tree : FileTree) (directory : FilePath) (refusal : FileError) :
    Except FileError Unit :=
  if tree.isDirectory directory then .ok () else .error refusal

/-- The answer to a request for a new directory, and the tree after it. -/
def attempted (tree : FileTree) (directory : FilePath) : Except FileError Unit × FileTree :=
  match tree.makeDirectory directory with
  | .ok later => (.ok (), later)
  | .error refusal => (tree.settled directory refusal, tree)

theorem attempted_grows (precedes : directory.Precedes path) :
    (tree.attempted directory).2.Grows path tree := by
  unfold attempted
  cases made : tree.makeDirectory directory with
  | ok later => exact makeDirectory_grows made precedes
  | error refusal => exact .refl path tree

theorem isDirectory_of_attempted (attempt : tree.attempted directory = (.ok (), later)) :
    later.isDirectory directory = true := by
  unfold attempted at attempt
  cases outcome : tree.makeDirectory directory with
  | ok made =>
      rw [outcome, Prod.mk.injEq] at attempt
      obtain ⟨_, rfl⟩ := attempt
      exact isDirectory_of_makeDirectory outcome
  | error refusal =>
      rw [outcome, Prod.mk.injEq, settled] at attempt
      obtain ⟨settles, rfl⟩ := attempt
      split at settles
      · assumption
      · cases settles

theorem run_settle (tree : FileTree) (directory : FilePath) (refusal : FileError) :
    tree.run (access.settle directory refusal) = (tree.settled directory refusal, tree) := by
  rw [FileAccess.settle, run_bind, run_isDirectory, settled]
  split <;> rfl

theorem run_attempt (tree : FileTree) (directory : FilePath) :
    tree.run (do
      match ← access.makeDirectory directory with
      | .ok () => return .ok ()
      | .error refusal => access.settle directory refusal) = tree.attempted directory := by
  rw [run_bind, run_makeDirectory, attempted]
  cases tree.makeDirectory directory with
  | ok later => rfl
  | error refusal => exact run_settle tree directory refusal

/-- Where the directory that encloses it is missing, a directory is attempted after those that
enclose it were made. -/
theorem run_makeEnclosed_of_notFound (named : directory.text ≠ "")
    (missing : tree.makeDirectory directory = .error .notFound) (enclosing : List FilePath) :
    tree.run (access.makeEnclosed (directory :: enclosing)) =
      match tree.run (access.makeEnclosed enclosing) with
      | (.error refusal, later) => (.error refusal, later)
      | (.ok (), later) => later.attempted directory := by
  simp only [FileAccess.makeEnclosed, named, ↓reduceIte, run_bind, run_makeDirectory, missing]
  obtain ⟨result, between⟩ := tree.run (access.makeEnclosed enclosing)
  cases result with
  | error refusal => rfl
  | ok => exact run_attempt between directory

theorem run_makeEnclosed_of_found (named : directory.text ≠ "")
    (found : tree.makeDirectory directory ≠ .error .notFound) (enclosing : List FilePath) :
    tree.run (access.makeEnclosed (directory :: enclosing)) = tree.attempted directory := by
  simp only [FileAccess.makeEnclosed, named, ↓reduceIte, run_bind, run_makeDirectory]
  unfold attempted
  cases outcome : tree.makeDirectory directory with
  | ok later => rfl
  | error refusal =>
      rw [outcome] at found
      cases refusal with
      | notFound => exact absurd rfl found
      | _ => exact run_settle tree directory _

/-- Whatever becomes of the request, only directories that the path passes are new. -/
theorem run_makeEnclosed_grows {enclosing : List FilePath}
    (lead : ∀ directory ∈ enclosing, directory.text = "" ∨ directory.Precedes path) :
    (tree.run (access.makeEnclosed enclosing)).2.Grows path tree := by
  -- The induction is on the list of directories: those behind the first are made before it.
  induction enclosing with
  | nil => exact .refl path tree
  | cons directory enclosing ih =>
      by_cases named : directory.text = ""
      · have idle : tree.run (access.makeEnclosed (directory :: enclosing)) = (.ok (), tree) := by
          rw [FileAccess.makeEnclosed, if_pos named, run_pure]
        rw [idle]
        exact .refl path tree
      · have precedes : directory.Precedes path :=
          (lead directory List.mem_cons_self).resolve_left named
        by_cases missing : tree.makeDirectory directory = .error .notFound
        · have grown := ih fun other member => lead other (List.mem_cons_of_mem directory member)
          rw [run_makeEnclosed_of_notFound named missing]
          generalize tree.run (access.makeEnclosed enclosing) = inner at grown ⊢
          rcases inner with ⟨refusal | _, between⟩
          · exact grown
          · exact (attempted_grows precedes).trans grown
        · rw [run_makeEnclosed_of_found named missing]
          exact attempted_grows precedes

theorem run_makeDirectories_grows (tree : FileTree) (path : FilePath) :
    (tree.run (access.makeDirectories path)).2.Grows path tree := by
  refine run_makeEnclosed_grows fun directory member => ?_
  rcases List.mem_cons.mp member with rfl | encloses
  · exact .inr (.refl directory)
  · exact FilePath.precedes_of_mem_enclosing encloses

theorem isDirectory_of_makeDirectories (named : path.text ≠ "")
    (made : tree.run (access.makeDirectories path) = (.ok (), later)) :
    later.isDirectory path = true := by
  rw [FileAccess.makeDirectories] at made
  by_cases missing : tree.makeDirectory path = .error .notFound
  · rw [run_makeEnclosed_of_notFound named missing] at made
    generalize tree.run (access.makeEnclosed path.enclosing) = inner at made
    rcases inner with ⟨refusal | _, between⟩
    · cases made
    · exact isDirectory_of_attempted made
  · rw [run_makeEnclosed_of_found named missing] at made
    exact isDirectory_of_attempted made

/-- Where the directory is there, nothing is made. -/
theorem run_makeDirectories_of_isDirectory (named : path.text ≠ "")
    (there : tree.isDirectory path = true) :
    tree.run (access.makeDirectories path) = (.ok (), tree) := by
  have refused := makeDirectory_of_isDirectory there
  have found : tree.makeDirectory path ≠ .error .notFound := by
    rw [refused]
    intro same
    cases same
  rw [FileAccess.makeDirectories, run_makeEnclosed_of_found named found, attempted, refused]
  simp only [settled, there, ↓reduceIte]

end SnapshotTypes.FileTree
