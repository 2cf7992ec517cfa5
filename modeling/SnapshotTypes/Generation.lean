import SnapshotTypes.Assembly
import SnapshotTypes.Emission
import SnapshotTypes.Decoding

/-!
The whole way from a snapshot file to a file of declarations. Nothing is written before the text
of the declarations is complete.
-/

set_option autoImplicit false

namespace SnapshotTypes

structure Job where
  schemaFile : FilePath
  outFile : FilePath
  layout : Layout
deriving DecidableEq, Repr

inductive JobFailure where
  | loading (failure : LoadFailure)
  | assembly (failure : UnsupportedType)
  | outputDirectory (path : FilePath) (cause : FileError)
  | outputFile (path : FilePath) (cause : FileError)
deriving DecidableEq, Repr

/-- A failure followed by what caused it. The cause of an unreadable file is told by the failure
itself and told again behind it. -/
def JobFailure.message : JobFailure → String
  | loading (.unreadable path cause) =>
    (LoadFailure.unreadable path cause).message ++ ": " ++ cause.message
  | loading failure => failure.message
  | assembly failure => failure.message
  | outputDirectory path cause =>
    "failed to create output directory " ++ path.text ++ ": " ++ cause.message
  | outputFile path cause =>
    "failed to write output file " ++ path.text ++ ": " ++ cause.message

def writtenEntry (job : Job) (file : DeclarationFile) : Log.Entry :=
  ⟨.info, .commandLine,
    s!"wrote {job.outFile.text} ({file.items.length} declarations, {job.layout.name})"⟩

/-- The directory that has to be there before the output is written. -/
def Job.outputDirectory? (job : Job) : Option FilePath :=
  job.outFile.parent?.filter fun path => path.text ≠ ""

namespace FileAccess

variable {m : Type → Type} [Monad m]

def prepareOutput (access : FileAccess m) (job : Job) : m (Except JobFailure Unit) :=
  match job.outputDirectory? with
  | none => return .ok ()
  | some path => do
    match ← access.makeDirectories path with
    | .error cause => return .error (.outputDirectory path cause)
    | .ok () => return .ok ()

def writeOutput (access : FileAccess m) (job : Job) (file : DeclarationFile) :
    m (Except JobFailure Unit) := do
  match ← access.prepareOutput job with
  | .error failure => return .error failure
  | .ok () =>
    match ← access.writeText job.outFile file.render with
    | .error cause => return .error (.outputFile job.outFile cause)
    | .ok () => return .ok ()

/-- Does a job, with what is to be reported of it. The report is there for a failure too. -/
def perform (access : FileAccess m) (job : Job) :
    m (List Log.Entry × Except JobFailure Unit) := do
  match ← access.loadSnapshot job.schemaFile with
  | (loaded, .error failure) => return (loaded, .error (.loading failure))
  | (loaded, .ok snapshot) =>
    match assemble snapshot job.layout with
    | (assembled, .error failure) => return (loaded ++ assembled, .error (.assembly failure))
    | (assembled, .ok file) =>
      match ← access.writeOutput job file with
      | .error failure => return (loaded ++ assembled, .error failure)
      | .ok () => return (loaded ++ assembled ++ [writtenEntry job file], .ok ())

end FileAccess

end SnapshotTypes
