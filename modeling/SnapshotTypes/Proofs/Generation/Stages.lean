import SnapshotTypes.Generation
import SnapshotTypes.Proofs.FileTree.Requests

/-!
# The stages of a job

What each stage of a job needs of the tree, and what it leaves. The stages before the output only
read the text of the schema file. Of the stages that fail, the first one decides the failure.
-/

set_option autoImplicit false

namespace SnapshotTypes

open FileTree (access)

variable {job : Job} {tree later : FileTree} {snapshot : Snapshot} {file : DeclarationFile}
  {failure : JobFailure}

/-!
## Relations
-/

namespace Job

/-- The schema file holds a snapshot in the notation of its name. -/
def Decodes (job : Job) (tree : FileTree) (snapshot : Snapshot) : Prop :=
  ∃ format source, Format.ofPath? job.schemaFile = some format ∧
    tree.text job.schemaFile = .ok source ∧ Snapshot.parse source format = .ok snapshot

def Produces (job : Job) (tree : FileTree) (file : DeclarationFile) : Prop :=
  ∃ snapshot, job.Decodes tree snapshot ∧ (assemble snapshot job.layout).2 = .ok file

/-- The stage before the output that fails, after those before it did not. -/
inductive Rejects (job : Job) (tree : FileTree) : JobFailure → Prop where
  | unknownFormat : Format.ofPath? job.schemaFile = none →
      Rejects job tree (.loading (.unknownFormat job.schemaFile))
  | unreadable {format : Format} {cause : FileError} :
      Format.ofPath? job.schemaFile = some format → tree.text job.schemaFile = .error cause →
      Rejects job tree (.loading (.unreadable job.schemaFile cause))
  | malformed {format : Format} {source : String} {cause : Document.Failure} :
      Format.ofPath? job.schemaFile = some format → tree.text job.schemaFile = .ok source →
      Snapshot.parse source format = .error cause →
      Rejects job tree (.loading (.malformed job.schemaFile cause))
  | assembly {snapshot : Snapshot} {cause : UnsupportedType} :
      job.Decodes tree snapshot → (assemble snapshot job.layout).2 = .error cause →
      Rejects job tree (.assembly cause)

/-- A tree in which the directory of the output was made, where the output is in one. -/
inductive Prepares (job : Job) (tree : FileTree) : FileTree → Prop where
  | unneeded : job.outputDirectory? = none → Prepares job tree tree
  | made {directory : FilePath} {later : FileTree} :
      job.outputDirectory? = some directory →
      tree.run (access.makeDirectories directory) = (.ok (), later) → Prepares job tree later

/-- The failure of the first stage that fails, and the tree this stage leaves. -/
inductive Fails (job : Job) (tree : FileTree) : JobFailure → FileTree → Prop where
  | early {failure : JobFailure} : job.Rejects tree failure → Fails job tree failure tree
  | outputDirectory {file : DeclarationFile} {directory : FilePath} {cause : FileError}
      {later : FileTree} :
      job.Produces tree file → job.outputDirectory? = some directory →
      tree.run (access.makeDirectories directory) = (.error cause, later) →
      Fails job tree (.outputDirectory directory cause) later
  | outputFile {file : DeclarationFile} {cause : FileError} {prepared : FileTree} :
      job.Produces tree file → job.Prepares tree prepared →
      prepared.write job.outFile file.render.toUTF8 = .error cause →
      Fails job tree (.outputFile job.outFile cause) prepared

/-!
## Before the output
-/

/-- What is made of the schema file, before the output is touched. -/
def translated (job : Job) (tree : FileTree) :
    List Log.Entry × Except JobFailure DeclarationFile :=
  match Format.ofPath? job.schemaFile with
  | none => ([], .error (.loading (.unknownFormat job.schemaFile)))
  | some format =>
    match tree.text job.schemaFile with
    | .error cause => ([], .error (.loading (.unreadable job.schemaFile cause)))
    | .ok source =>
      match Snapshot.ofText job.schemaFile format source with
      | (loaded, .error failure) => (loaded, .error (.loading failure))
      | (loaded, .ok snapshot) =>
        match assemble snapshot job.layout with
        | (assembled, .error cause) => (loaded ++ assembled, .error (.assembly cause))
        | (assembled, .ok file) => (loaded ++ assembled, .ok file)

theorem translated_of_text (same : later.text job.schemaFile = tree.text job.schemaFile) :
    job.translated later = job.translated tree := by
  rw [translated, translated, same]

theorem Decodes.translated (decodes : job.Decodes tree snapshot) :
    (job.translated tree).2 =
      match (assemble snapshot job.layout).2 with
      | .error cause => .error (.assembly cause)
      | .ok file => .ok file := by
  obtain ⟨format, source, known, read, parsed⟩ := decodes
  simp only [Job.translated, known, read, Snapshot.ofText, parsed]
  rcases assemble snapshot job.layout with ⟨assembled, cause | file⟩
  · rfl
  · rfl

theorem Rejects.translated (rejects : job.Rejects tree failure) :
    (job.translated tree).2 = .error failure := by
  cases rejects with
  | unknownFormat known => simp only [Job.translated, known]
  | unreadable known read => simp only [Job.translated, known, read]
  | malformed known read parsed => simp only [Job.translated, known, read, Snapshot.ofText, parsed]
  | assembly decodes assembles => rw [decodes.translated, assembles]

theorem Produces.translated (produces : job.Produces tree file) :
    (job.translated tree).2 = .ok file := by
  obtain ⟨snapshot, decodes, assembles⟩ := produces
  rw [decodes.translated, assembles]

/-- The schema file becomes declarations, or one of the stages before the output fails. -/
theorem produces_or_rejects (job : Job) (tree : FileTree) :
    (∃ file, job.Produces tree file) ∨ ∃ failure, job.Rejects tree failure := by
  cases known : Format.ofPath? job.schemaFile with
  | none => exact .inr ⟨_, .unknownFormat known⟩
  | some format =>
      cases read : tree.text job.schemaFile with
      | error cause => exact .inr ⟨_, .unreadable known read⟩
      | ok source =>
          cases parsed : Snapshot.parse source format with
          | error cause => exact .inr ⟨_, .malformed known read parsed⟩
          | ok snapshot =>
              have decodes : job.Decodes tree snapshot := ⟨format, source, known, read, parsed⟩
              cases assembles : (assemble snapshot job.layout).2 with
              | error cause => exact .inr ⟨_, .assembly decodes assembles⟩
              | ok file => exact .inl ⟨file, snapshot, decodes, assembles⟩

end Job

/-!
## The output
-/

namespace FileTree

theorem run_prepareOutput_of_prepares (prepares : job.Prepares tree later) :
    tree.run (access.prepareOutput job) = (.ok (), later) := by
  unfold FileAccess.prepareOutput
  cases prepares with
  | unneeded nowhere =>
      rw [nowhere]
      rfl
  | made needed makes =>
      rw [needed]
      dsimp only
      rw [run_bind, makes]
      rfl

theorem run_prepareOutput_of_refused {directory : FilePath} {cause : FileError}
    (needed : job.outputDirectory? = some directory)
    (refused : tree.run (access.makeDirectories directory) = (.error cause, later)) :
    tree.run (access.prepareOutput job) = (.error (.outputDirectory directory cause), later) := by
  unfold FileAccess.prepareOutput
  rw [needed]
  dsimp only
  rw [run_bind, refused]
  rfl

theorem prepares_or_refused (tree : FileTree) (job : Job) :
    (∃ later, job.Prepares tree later) ∨
      ∃ directory cause later, job.outputDirectory? = some directory ∧
        tree.run (access.makeDirectories directory) = (.error cause, later) := by
  cases needed : job.outputDirectory? with
  | none => exact .inl ⟨tree, .unneeded needed⟩
  | some directory =>
      cases makes : tree.run (access.makeDirectories directory) with
      | mk result later =>
          cases result with
          | error cause => exact .inr ⟨directory, cause, later, rfl, makes⟩
          | ok => exact .inl ⟨later, .made needed makes⟩

theorem run_writeOutput_of_prepares (prepares : job.Prepares tree later) (file : DeclarationFile) :
    tree.run (access.writeOutput job file) =
      match later.write job.outFile file.render.toUTF8 with
      | .ok last => (.ok (), last)
      | .error cause => (.error (.outputFile job.outFile cause), later) := by
  rw [FileAccess.writeOutput, run_bind, run_prepareOutput_of_prepares prepares]
  dsimp only
  rw [run_bind, run_writeText]
  cases later.write job.outFile file.render.toUTF8 with
  | error cause => rfl
  | ok last => rfl

theorem run_writeOutput_of_refused {directory : FilePath} {cause : FileError}
    (needed : job.outputDirectory? = some directory)
    (refused : tree.run (access.makeDirectories directory) = (.error cause, later))
    (file : DeclarationFile) :
    tree.run (access.writeOutput job file) =
      (.error (.outputDirectory directory cause), later) := by
  rw [FileAccess.writeOutput, run_bind, run_prepareOutput_of_refused needed refused]
  rfl

/-!
## The whole job
-/

theorem run_perform (tree : FileTree) (job : Job) :
    tree.run (access.perform job) =
      match (job.translated tree).2 with
      | .error failure => (((job.translated tree).1, .error failure), tree)
      | .ok file =>
        match tree.run (access.writeOutput job file) with
        | (.error failure, later) => (((job.translated tree).1, .error failure), later)
        | (.ok (), later) =>
          (((job.translated tree).1 ++ [writtenEntry job file], .ok ()), later) := by
  rw [FileAccess.perform, run_bind, FileAccess.loadSnapshot, Job.translated]
  cases Format.ofPath? job.schemaFile with
  | none => rfl
  | some format =>
      dsimp only
      rw [run_bind, run_readText]
      cases tree.text job.schemaFile with
      | error cause => rfl
      | ok source =>
          dsimp only
          rw [run_pure]
          rcases Snapshot.ofText job.schemaFile format source with ⟨loaded, failure | snapshot⟩
          · rfl
          · dsimp only
            rcases assemble snapshot job.layout with ⟨assembled, cause | file⟩
            · rfl
            · dsimp only
              rw [run_bind]
              rcases tree.run (access.writeOutput job file) with ⟨failure | _, later⟩
              · rfl
              · rfl

theorem run_perform_of_rejects (rejects : job.Rejects tree failure) :
    tree.run (access.perform job) = (((job.translated tree).1, .error failure), tree) := by
  rw [run_perform, rejects.translated]

theorem run_perform_of_refused {directory : FilePath} {cause : FileError}
    (produces : job.Produces tree file) (needed : job.outputDirectory? = some directory)
    (refused : tree.run (access.makeDirectories directory) = (.error cause, later)) :
    tree.run (access.perform job) =
      (((job.translated tree).1, .error (.outputDirectory directory cause)), later) := by
  rw [run_perform, produces.translated]
  dsimp only
  rw [run_writeOutput_of_refused needed refused]

theorem run_perform_of_prepares (produces : job.Produces tree file)
    (prepares : job.Prepares tree later) :
    tree.run (access.perform job) =
      match later.write job.outFile file.render.toUTF8 with
      | .ok last => (((job.translated tree).1 ++ [writtenEntry job file], .ok ()), last)
      | .error cause =>
        (((job.translated tree).1, .error (.outputFile job.outFile cause)), later) := by
  rw [run_perform, produces.translated]
  dsimp only
  rw [run_writeOutput_of_prepares prepares]
  cases later.write job.outFile file.render.toUTF8 with
  | error cause => rfl
  | ok last => rfl

/-- A job is done, or some stage is the first to fail. -/
theorem perform_cases (tree : FileTree) (job : Job) :
    (∃ file prepared later, job.Produces tree file ∧ job.Prepares tree prepared ∧
        prepared.write job.outFile file.render.toUTF8 = .ok later ∧
        tree.run (access.perform job) =
          (((job.translated tree).1 ++ [writtenEntry job file], .ok ()), later)) ∨
      ∃ failure later, job.Fails tree failure later ∧
        tree.run (access.perform job) = (((job.translated tree).1, .error failure), later) := by
  rcases job.produces_or_rejects tree with ⟨file, produces⟩ | ⟨failure, rejects⟩
  · rcases tree.prepares_or_refused job with
      ⟨prepared, prepares⟩ | ⟨directory, cause, later, needed, refused⟩
    · have performed := run_perform_of_prepares produces prepares
      cases writes : prepared.write job.outFile file.render.toUTF8 with
      | error cause =>
          rw [writes] at performed
          exact .inr ⟨_, prepared, .outputFile produces prepares writes, performed⟩
      | ok later =>
          rw [writes] at performed
          exact .inl ⟨file, prepared, later, produces, prepares, writes, performed⟩
    · exact .inr ⟨_, later, .outputDirectory produces needed refused,
        run_perform_of_refused produces needed refused⟩
  · exact .inr ⟨failure, tree, .early rejects, run_perform_of_rejects rejects⟩

end FileTree

theorem Job.Fails.run_perform (fails : job.Fails tree failure later) :
    tree.run (access.perform job) = (((job.translated tree).1, .error failure), later) := by
  cases fails with
  | early rejects => exact FileTree.run_perform_of_rejects rejects
  | outputDirectory produces needed refused =>
      exact FileTree.run_perform_of_refused produces needed refused
  | outputFile produces prepares writes =>
      rw [FileTree.run_perform_of_prepares produces prepares, writes]

end SnapshotTypes
