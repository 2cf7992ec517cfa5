import SnapshotTypes.Json.Reading
import SnapshotTypes.Yaml.Reading
import SnapshotTypes.FileAccess
import SnapshotTypes.Log

/-!
Snapshots from text and from files, in either notation.
-/

set_option autoImplicit false

namespace SnapshotTypes

inductive Format where
  | json
  | yaml
deriving DecidableEq, Repr

def Format.name : Format → String
  | json => "Json"
  | yaml => "Yaml"

def Snapshot.parse (source : String) : Format → Except Document.Failure Snapshot
  | .json => Json.parseSnapshot source
  | .yaml => Yaml.parseSnapshot source

/-!
## Files

The notation is decided by the name of the file, before the file is read.
-/

/-- Letter case counts. -/
def Format.ofPath? (path : FilePath) : Option Format :=
  match path.extension? with
  | some "json" => some .json
  | some "yaml" => some .yaml
  | _ => none

inductive LoadFailure where
  | unknownFormat (path : FilePath)
  | unreadable (path : FilePath) (cause : FileError)
  | malformed (path : FilePath) (cause : Document.Failure)
deriving DecidableEq, Repr

def LoadFailure.message : LoadFailure → String
  | unknownFormat path => "invalid schema file extension: " ++ path.text
  | unreadable path cause => "failed to read schema file " ++ path.text ++ ": " ++ cause.message
  | malformed path cause =>
    "failed to parse schema file " ++ path.text ++ " at " ++ cause.path.render ++ ": " ++
      cause.message

def loadEntry (path : FilePath) (format : Format) (snapshot : Snapshot) : Log.Entry :=
  ⟨.info, .loading,
    s!"loaded {path.text} ({format.name}): {snapshot.collections.length} collections, " ++
      s!"{snapshot.fields.length} fields"⟩

def Snapshot.ofText (path : FilePath) (format : Format) (source : String) :
    List Log.Entry × Except LoadFailure Snapshot :=
  match Snapshot.parse source format with
  | .error cause => ([], .error (.malformed path cause))
  | .ok snapshot => ([loadEntry path format snapshot], .ok snapshot)

variable {m : Type → Type} [Monad m]

def FileAccess.loadSnapshot (access : FileAccess m) (path : FilePath) :
    m (List Log.Entry × Except LoadFailure Snapshot) :=
  match Format.ofPath? path with
  | none => return ([], .error (.unknownFormat path))
  | some format => do
    match ← access.readText path with
    | .error cause => return ([], .error (.unreadable path cause))
    | .ok source => return Snapshot.ofText path format source

end SnapshotTypes
