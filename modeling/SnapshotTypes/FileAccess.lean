import SnapshotTypes.Text

/-!
Paths of files, and access to the files that they name.
-/

set_option autoImplicit false

namespace SnapshotTypes

/-!
## Paths

Paths as text. A path is read piece by piece between its slashes; empty pieces and dots name
nothing, except for a dot at the very start, which a parent keeps.
-/

structure FilePath where
  text : String
deriving DecidableEq, Repr

namespace FilePath

/-- The parts of a path between its slashes. There is always one. -/
def pieces (path : FilePath) : List String :=
  (Text.split '/' path.text.toList).map String.ofList

def ofPieces (pieces : List String) : FilePath :=
  ⟨"/".intercalate pieces⟩

/-- Pieces that neither name anything nor lead upwards. -/
def isIdle (piece : String) : Bool :=
  piece == "" || piece == "."

/-- The last piece that is not idle, unless it leads upwards. -/
def fileName? (path : FilePath) : Option String :=
  match path.pieces.reverse.dropWhile isIdle with
  | [] => none
  | name :: _ => if name = ".." then none else some name

/-- What follows the last dot of a name. A dot at the start of a name separates nothing. -/
def extensionOfName? (name : String) : Option String :=
  let backwards := name.toList.reverse
  match backwards.dropWhile (· ≠ '.') with
  | [] => none
  | [_] => none
  | _ :: _ => some (String.ofList (backwards.takeWhile (· ≠ '.')).reverse)

def extension? (path : FilePath) : Option String :=
  path.fileName?.bind extensionOfName?

/-- What is left of a list of pieces, last one first, after dropping one name after the other,
each with the idle pieces before it. -/
def shortened : List String → List (List String)
  | [] => []
  | piece :: rest =>
    if isIdle piece then shortened rest else rest.dropWhile isIdle :: shortened rest

/-- The directories that contain a path by its text alone, the nearest first: `a/b/c` is in
`a/b`, in `a` and in the place where the path starts. -/
def enclosing (path : FilePath) : List FilePath :=
  match path.pieces with
  | "" :: body =>
    (shortened body.reverse).map fun rest =>
      if rest.isEmpty then ⟨"/"⟩ else ofPieces ("" :: rest.reverse)
  | "." :: body =>
    ((shortened body.reverse).map fun rest => ofPieces ("." :: rest.reverse)) ++ [⟨""⟩]
  | pieces => (shortened pieces.reverse).map fun rest => ofPieces rest.reverse

/-- A single name is in the empty path, and the root is in nothing. -/
def parent? (path : FilePath) : Option FilePath :=
  path.enclosing.head?

def isAbsolute (path : FilePath) : Bool :=
  path.text.toList.head? == some '/'

/-- Paths that can only stand for a directory. -/
def endsInSlash (path : FilePath) : Bool :=
  path.text.toList.getLast? == some '/'

/-- The pieces in the order in which they are followed, without the empty ones. -/
def steps (path : FilePath) : List String :=
  path.pieces.filter (· ≠ "")

end FilePath

/-!
## Access

What the program asks of the files around it, and how it makes the directories that a path needs.
The requests are given once for a tree of files kept as a value, and once for the file system.
-/

inductive FileError where
  | notFound
  | alreadyThere
  | notADirectory
  | isADirectory
  | nameTooLong
  /-- No path holds the character that ends paths. -/
  | endMarkInPath
  | notText
  | other (reason : String)
deriving DecidableEq, Repr

def FileError.message : FileError → String
  | notFound => "No such file or directory (os error 2)"
  | alreadyThere => "File exists (os error 17)"
  | notADirectory => "Not a directory (os error 20)"
  | isADirectory => "Is a directory (os error 21)"
  | nameTooLong => "File name too long (os error 36)"
  | endMarkInPath => "file name contained an unexpected NUL byte"
  | notText => "stream did not contain valid UTF-8"
  | other reason => reason

structure FileAccess (m : Type → Type) where
  readText : FilePath → m (Except FileError String)
  isDirectory : FilePath → m Bool
  /-- Makes one directory, in a directory that is there. -/
  makeDirectory : FilePath → m (Except FileError Unit)
  /-- Replaces all that the file held before. -/
  writeText : FilePath → String → m (Except FileError Unit)

namespace FileAccess

variable {m : Type → Type} [Monad m]

/-- A directory that could not be made does no harm when it is there anyway. -/
def settle (access : FileAccess m) (path : FilePath) (refusal : FileError) :
    m (Except FileError Unit) := do
  if ← access.isDirectory path then return .ok () else return .error refusal

/-- Makes the first of the given directories, after those that enclose it where they are missing.
The empty path is the place where relative paths start, and always there. -/
def makeEnclosed (access : FileAccess m) : List FilePath → m (Except FileError Unit)
  | [] => return .error .notFound
  | path :: enclosing => do
    if path.text = "" then return .ok ()
    match ← access.makeDirectory path with
    | .ok () => return .ok ()
    | .error .notFound =>
      match ← access.makeEnclosed enclosing with
      | .error refusal => return .error refusal
      | .ok () =>
        match ← access.makeDirectory path with
        | .ok () => return .ok ()
        | .error refusal => access.settle path refusal
    | .error refusal => access.settle path refusal

/-- Makes a directory with all that enclose it. Those made before a refusal stay. -/
def makeDirectories (access : FileAccess m) (path : FilePath) : m (Except FileError Unit) :=
  access.makeEnclosed (path :: path.enclosing)

end FileAccess

end SnapshotTypes
