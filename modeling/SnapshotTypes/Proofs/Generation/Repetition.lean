import SnapshotTypes.Proofs.Generation.Failure

/-!
# Jobs that are done

What a job that is done has changed: its output, and the directories that were missing on the way
to it. Doing the same job again changes nothing more, as long as the output did not take the place
of the schema file.
-/

set_option autoImplicit false

namespace SnapshotTypes

open FileTree (access)

variable {job : Job} {tree prepared later : FileTree} {file : DeclarationFile} {place : Place}
  {log : List Log.Entry}

namespace Job

/-- The differences that writing declarations makes to a tree. -/
structure Writes (job : Job) (tree later : FileTree) (file : DeclarationFile) (place : Place) :
    Prop where
  start : later.start = tree.start
  located : later.locate job.outFile = .ok place
  earlier : ∀ former, tree.locate job.outFile = .ok former → former = place
  written : later.node? place = some (.file file.render.toUTF8)
  replaced : tree.isDirectoryAt place = false
  kept : ∀ other node, other ≠ place → tree.node? other = some node →
    later.node? other = some node
  added : ∀ other node, other ≠ place → tree.node? other = none →
    later.node? other = some node →
    node = .directory ∧
      ∃ directory, job.outputDirectory? = some directory ∧ later.Passes directory other

theorem text_ne_empty_of_outputDirectory? {directory : FilePath}
    (needed : job.outputDirectory? = some directory) : directory.text ≠ "" := by
  have kept := (Option.filter_eq_some_iff.mp needed).2
  simpa using kept

theorem Decodes.of_text {snapshot : Snapshot} (decodes : job.Decodes tree snapshot)
    (same : later.text job.schemaFile = tree.text job.schemaFile) :
    job.Decodes later snapshot := by
  obtain ⟨format, source, known, read, parsed⟩ := decodes
  exact ⟨format, source, known, same.trans read, parsed⟩

theorem Produces.of_text (produces : job.Produces tree file)
    (same : later.text job.schemaFile = tree.text job.schemaFile) : job.Produces later file := by
  obtain ⟨snapshot, decodes, assembles⟩ := produces
  exact ⟨snapshot, decodes.of_text same, assembles⟩

theorem Produces.exists_locate (produces : job.Produces tree file) :
    ∃ place bytes, tree.locate job.schemaFile = .ok place ∧
      tree.node? place = some (.file bytes) := by
  obtain ⟨_, ⟨_, _, _, read, _⟩, _⟩ := produces
  obtain ⟨bytes, content, _⟩ := FileTree.text_eq_ok_iff.mp read
  obtain ⟨place, located, there⟩ := FileTree.content_eq_ok_iff.mp content
  exact ⟨place, bytes, located, there⟩

/-- Where the directory of the output was made, it need not be made again. -/
theorem Prepares.again (prepares : job.Prepares tree prepared) (retains : later.Retains prepared) :
    job.Prepares later later := by
  cases prepares with
  | unneeded nowhere => exact .unneeded nowhere
  | made needed makes =>
      have named := text_ne_empty_of_outputDirectory? needed
      have there := retains.isDirectory (FileTree.isDirectory_of_makeDirectories named makes)
      exact .made needed (FileTree.run_makeDirectories_of_isDirectory named there)

theorem Prepares.writes (prepares : job.Prepares tree prepared)
    (written : prepared.write job.outFile file.render.toUTF8 = .ok later) :
    ∃ place, job.Writes tree later file place := by
  obtain ⟨place, below, free, same, retains, located⟩ := FileTree.exists_put_of_write written
  have adds := prepares.addsOnlyDirectories
  have elsewhere : ∀ other, other ≠ place → later.node? other = prepared.node? other := by
    intro other apart
    rw [same, FileTree.node?_put_of_ne prepared below _ apart]
  refine ⟨place, ⟨retains.start.trans adds.retains.start, located, ?_, ?_, ?_, ?_, ?_⟩⟩
  · intro former there
    have still := (retains.trans adds.retains).locate there
    rw [located] at still
    exact (Except.ok.inj still).symm
  · rw [same, FileTree.node?_put_self prepared below]
  · cases before : tree.isDirectoryAt place with
    | false => rfl
    | true => exact absurd (adds.retains.isDirectoryAt before) (by simp [free])
  · intro other node apart there
    rw [elsewhere other apart]
    exact adds.kept there
  · intro other node apart absent there
    rw [elsewhere other apart] at there
    obtain ⟨new, directory, needed, passes⟩ := adds.added absent there
    exact ⟨new, directory, needed, retains.passes passes⟩

/-- The schema file is read again as before, unless it is the file that was written. -/
theorem Writes.text_schemaFile (writes : job.Writes tree later file place)
    (retains : later.Retains tree) (produces : job.Produces tree file)
    (apart : tree.locate job.schemaFile ≠ .ok place) :
    later.text job.schemaFile = tree.text job.schemaFile := by
  obtain ⟨source, bytes, located, there⟩ := produces.exists_locate
  have elsewhere : source ≠ place := by
    rintro rfl
    exact apart located
  have kept := writes.kept source _ elsewhere there
  rw [FileTree.text, FileTree.text, FileTree.content, FileTree.content, located,
    retains.locate located]
  dsimp only
  rw [there, kept]

/-- A job that is done has written the declarations of the snapshot that its schema file held
before, and has made the directories that were missing on the way; nothing else differs. Unless the
file that was written is the one that was read, the job is done again with the same report, and
changes nothing. Each path is taken for what it stands for when it is used: `new/../s.json` stands
for `s.json` once `new` was made. -/
theorem success_writes_output_alone (job : Job) (tree later : FileTree) (log : List Log.Entry)
    (performed : tree.run (access.perform job) = ((log, .ok ()), later)) :
    ∃ file place, job.Produces tree file ∧ job.Writes tree later file place ∧
      (tree.locate job.schemaFile ≠ .ok place →
        later.run (access.perform job) = ((log, .ok ()), later)) := by
  rcases tree.perform_cases job with
    ⟨file, prepared, left, produces, prepares, written, done⟩ | ⟨_, _, _, failed⟩
  · rw [done] at performed
    cases performed
    obtain ⟨place, writes⟩ := prepares.writes written
    refine ⟨file, place, produces, writes, fun apart => ?_⟩
    -- The second run reads the same text, makes no directory and writes what is there.
    obtain ⟨_, _, _, _, retains, _⟩ := FileTree.exists_put_of_write written
    have same := writes.text_schemaFile (retains.trans prepares.addsOnlyDirectories.retains)
      produces apart
    have again := FileTree.run_perform_of_prepares (produces.of_text same)
      (prepares.again retains)
    rw [again, FileTree.write_written written, translated_of_text same]
  · rw [failed] at performed
    cases performed

/-- The directory of the output is made by the first run only. -/
theorem success_repeated_in_new_directory :
    let job : Job := ⟨⟨"s.json"⟩, ⟨"types/schema.ts"⟩, .topLevel⟩
    let log := [loadEntry job.schemaFile .json ⟨[], []⟩,
      writtenEntry job ⟨[.record ⟨"Schema", []⟩]⟩]
    let tree : FileTree :=
      ⟨[(["s.json"], .file "\x7b\"collections\":[],\"fields\":[]\x7d".toUTF8)], []⟩
    let later := (tree.put ["types"] .directory).put ["types", "schema.ts"]
      (.file "export type Schema = \x7b\x7d;\n".toUTF8)
    tree.run (access.perform job) = ((log, .ok ()), later) ∧
      later.run (access.perform job) = ((log, .ok ()), later) := by
  intro job log tree later
  have performed : tree.run (access.perform job) = ((log, .ok ()), later) := by decide +kernel
  obtain ⟨file, place, _, writes, again⟩ := job.success_writes_output_alone tree later log performed
  have located : later.locate job.outFile = .ok ["types", "schema.ts"] := by decide +kernel
  rw [writes.located, Except.ok.injEq] at located
  subst located
  have apart : tree.locate job.schemaFile ≠ .ok ["types", "schema.ts"] := by decide +kernel
  exact ⟨performed, again apart⟩

end Job

end SnapshotTypes
