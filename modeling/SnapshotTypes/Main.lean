import SnapshotTypes.Invocation

/-!
The program itself: the requests of `FileAccess` on the file system, the words and variables of
the call, and its two outputs.
-/

set_option autoImplicit false

namespace SnapshotTypes

/-- The cause of a refusal by the system, whose numbers come with either sign. -/
def FileError.ofSystem : IO.Error → FileError
  | .noFileOrDirectory .. => .notFound
  | .alreadyExists .. => .alreadyThere
  | .inappropriateType _ 21 _ => .isADirectory
  | .inappropriateType .. => .notADirectory
  | .invalidArgument file code reason =>
    if code = 36 ∨ 0 - code = 36 then .nameTooLong
    else .other (toString (IO.Error.invalidArgument file code reason))
  | error => .other (toString error)

/-- A request to the system, with its refusal as a value. -/
def requested {α : Type} (request : IO α) : IO (Except FileError α) := do
  match ← request.toBaseIO with
  | .ok value => return .ok value
  | .error error => return .error (.ofSystem error)

def systemAccess : FileAccess IO where
  readText path := do
    match ← requested (IO.FS.readBinFile path.text) with
    | .error cause => return .error cause
    | .ok bytes =>
      match String.fromUTF8? bytes with
      | none => return .error .notText
      | some text => return .ok text
  isDirectory path := do
    match ← requested (IO.FS.realPath path.text) with
    | .error _ => return false
    | .ok place => place.isDir
  makeDirectory path := requested (IO.FS.createDir path.text)
  writeText path text := requested (IO.FS.writeFile path.text text)

def currentEnvironment : IO Environment := do
  return ⟨← IO.getEnv Environment.colourForcedName, ← IO.getEnv Environment.colourUnwantedName,
    ← IO.getEnv Environment.logFilterName⟩

end SnapshotTypes

open SnapshotTypes in
def main (words : List String) : IO UInt32 := do
  let outcome ← systemAccess.invoke (← currentEnvironment) words
  IO.print outcome.standardOutput
  IO.eprint outcome.standardError
  return outcome.exitCode
