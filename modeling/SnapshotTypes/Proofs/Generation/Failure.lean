import SnapshotTypes.Proofs.FileTree.Growth
import SnapshotTypes.Proofs.Generation.Stages

/-!
# Failing jobs

What a failing job leaves. Until the declarations are complete nothing is written, and a refused
output leaves new directories on its way at most.
-/

set_option autoImplicit false

namespace SnapshotTypes

open FileTree (access)

variable {job : Job} {tree later : FileTree} {failure : JobFailure}

/-- Failures of the stages that write. -/
def JobFailure.concernsOutput : JobFailure → Bool
  | loading _ => false
  | assembly _ => false
  | outputDirectory _ _ => true
  | outputFile _ _ => true

namespace Job

/-- The only differences between two trees are new directories, which the path of the output's
directory passes. -/
def AddsOnlyDirectories (job : Job) (tree later : FileTree) : Prop :=
  later = tree ∨
    ∃ directory, job.outputDirectory? = some directory ∧ later.Grows directory tree

theorem AddsOnlyDirectories.retains (adds : job.AddsOnlyDirectories tree later) :
    later.Retains tree := by
  rcases adds with rfl | ⟨directory, _, grows⟩
  · exact .refl later
  · exact grows.retains

theorem AddsOnlyDirectories.kept (adds : job.AddsOnlyDirectories tree later) {place : Place}
    {node : FileNode} (there : tree.node? place = some node) : later.node? place = some node := by
  rcases adds with rfl | ⟨directory, _, grows⟩
  · exact there
  · exact grows.kept place node there

theorem AddsOnlyDirectories.added (adds : job.AddsOnlyDirectories tree later) {place : Place}
    {node : FileNode} (absent : tree.node? place = none) (there : later.node? place = some node) :
    node = .directory ∧
      ∃ directory, job.outputDirectory? = some directory ∧ later.Passes directory place := by
  rcases adds with rfl | ⟨directory, needed, grows⟩
  · rw [absent] at there
    cases there
  · obtain ⟨new, passes⟩ := grows.added place node absent there
    exact ⟨new, directory, needed, passes⟩

theorem addsOnlyDirectories_of_makeDirectories {directory : FilePath}
    {result : Except FileError Unit} (needed : job.outputDirectory? = some directory)
    (made : tree.run (access.makeDirectories directory) = (result, later)) :
    job.AddsOnlyDirectories tree later := by
  have grows := FileTree.run_makeDirectories_grows tree directory
  rw [made] at grows
  exact .inr ⟨directory, needed, grows⟩

theorem Prepares.addsOnlyDirectories (prepares : job.Prepares tree later) :
    job.AddsOnlyDirectories tree later := by
  cases prepares with
  | unneeded => exact .inl rfl
  | made needed makes => exact addsOnlyDirectories_of_makeDirectories needed makes

theorem Rejects.concernsOutput (rejects : job.Rejects tree failure) :
    failure.concernsOutput = false := by
  cases rejects <;> rfl

theorem Fails.addsOnlyDirectories (fails : job.Fails tree failure later) :
    job.AddsOnlyDirectories tree later := by
  cases fails with
  | early => exact .inl rfl
  | outputDirectory _ needed refused => exact addsOnlyDirectories_of_makeDirectories needed refused
  | outputFile _ prepares _ => exact prepares.addsOnlyDirectories

theorem Fails.eq_of_concernsOutput (fails : job.Fails tree failure later)
    (early : failure.concernsOutput = false) : later = tree := by
  cases fails with
  | early => rfl
  | outputDirectory => cases early
  | outputFile => cases early

theorem Fails.unknownFormat {path : FilePath}
    (fails : job.Fails tree (.loading (.unknownFormat path)) later) (other : FileTree) :
    job.Fails other (.loading (.unknownFormat path)) other := by
  cases fails with
  | early rejects =>
      cases rejects with
      | unknownFormat unknown => exact .early (.unknownFormat unknown)

theorem exists_run_perform_error_iff :
    (∃ log, tree.run (access.perform job) = ((log, .error failure), later)) ↔
      job.Fails tree failure later := by
  constructor
  · intro given
    obtain ⟨log, performed⟩ := given
    rcases tree.perform_cases job with ⟨_, _, _, _, _, _, done⟩ | ⟨first, left, fails, failed⟩
    · rw [done] at performed
      cases performed
    · rw [failed] at performed
      cases performed
      exact fails
  · intro fails
    exact ⟨_, fails.run_perform⟩

/-- The first stage that fails decides the failure. A failure before the output leaves the tree as
it is, and a name of unknown notation fails in every tree. Any other failure leaves all that was
there, with new directories at most, on the way to the output. -/
theorem failure_spares_tree (job : Job) (tree later : FileTree) (failure : JobFailure) :
    ((∃ log, tree.run (access.perform job) = ((log, .error failure), later)) ↔
        job.Fails tree failure later) ∧
      (job.Fails tree failure later →
        (failure.concernsOutput = false → later = tree) ∧
          (∀ path, failure = .loading (.unknownFormat path) → ∀ other : FileTree,
            ∃ log, other.run (access.perform job) = ((log, .error failure), other)) ∧
          later.start = tree.start ∧
          (∀ place node, tree.node? place = some node → later.node? place = some node) ∧
          (∀ place node, tree.node? place = none → later.node? place = some node →
            node = .directory ∧
              ∃ directory, job.outputDirectory? = some directory ∧
                later.Passes directory place)) := by
  refine ⟨exists_run_perform_error_iff, fun fails => ⟨fails.eq_of_concernsOutput, ?_, ?_, ?_, ?_⟩⟩
  · rintro path rfl other
    exact exists_run_perform_error_iff.mpr (fails.unknownFormat other)
  · exact fails.addsOnlyDirectories.retains.start
  · intro place node there
    exact fails.addsOnlyDirectories.kept there
  · intro place node absent there
    exact fails.addsOnlyDirectories.added absent there

/-- A file is in the way of the output's directory, which is noticed after `new` was made. -/
theorem failure_leaves_directory_on_way :
    let job : Job := ⟨⟨"s.json"⟩, ⟨"new/../s.json/x.ts"⟩, .topLevel⟩
    let tree : FileTree :=
      ⟨[(["s.json"], .file "\x7b\"collections\":[],\"fields\":[]\x7d".toUTF8)], []⟩
    let later := tree.put ["new"] .directory
    job.Fails tree (.outputDirectory ⟨"new/../s.json"⟩ .alreadyThere) later ∧
      ∃ directory, job.outputDirectory? = some directory ∧ later.Passes directory ["new"] := by
  intro job tree later
  obtain ⟨decides, spares⟩ := job.failure_spares_tree tree later
    (.outputDirectory ⟨"new/../s.json"⟩ .alreadyThere)
  have performed : tree.run (access.perform job) =
      (([loadEntry ⟨"s.json"⟩ .json ⟨[], []⟩],
        .error (.outputDirectory ⟨"new/../s.json"⟩ .alreadyThere)), later) := by
    decide +kernel
  have fails := decides.mp ⟨_, performed⟩
  obtain ⟨_, _, _, _, added⟩ := spares fails
  exact ⟨fails, (added ["new"] .directory (by decide +kernel) (by decide +kernel)).2⟩

end Job

end SnapshotTypes
