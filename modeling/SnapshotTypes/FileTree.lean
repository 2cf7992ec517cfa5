import SnapshotTypes.FileAccess
import SnapshotTypes.KeyedList

/-!
A tree of files as a value, and the requests of `FileAccess` on it. A refused request leaves the
tree as it is.
-/

set_option autoImplicit false

namespace SnapshotTypes

/-- The names that lead from the root to a place. -/
abbrev Place := List String

inductive FileNode where
  | directory
  | file (content : ByteArray)

-- Not derived, since the equality of bytes must be decided by the same instance wherever this
-- module is imported.
instance : DecidableEq FileNode
  | .directory, .directory => isTrue rfl
  | .directory, .file _ => isFalse nofun
  | .file _, .directory => isFalse nofun
  | .file content, .file other =>
    match ByteArray.instDecidableEq content other with
    | isTrue same => isTrue (congrArg FileNode.file same)
    | isFalse differ => isFalse fun equal => differ (FileNode.file.inj equal)

def FileNode.isDirectory : FileNode → Bool
  | directory => true
  | file _ => false

/-- All places but the root, which is always a directory, and the place where relative paths
start. -/
structure FileTree where
  nodes : KeyedList Place FileNode
  start : Place
deriving DecidableEq

namespace FileTree

/-- The places on the way from the root to a place, the place included. -/
def wayTo : Place → List Place
  | [] => []
  | name :: rest => [name] :: (wayTo rest).map (name :: ·)

/-- A tree of no more than the directories that lead to its start. -/
def emptyAt (start : Place) : FileTree :=
  ⟨(wayTo start).map fun place => (place, .directory), start⟩

def node? (tree : FileTree) (place : Place) : Option FileNode :=
  if place = [] then some .directory else tree.nodes.lookup place

def isDirectoryAt (tree : FileTree) (place : Place) : Bool :=
  (tree.node? place).any FileNode.isDirectory

def put (tree : FileTree) (place : Place) (node : FileNode) : FileTree :=
  { tree with nodes := tree.nodes.insert place node }

/-- The longest name of a directory entry, in bytes. -/
def longestName : Nat := 255

/-- Paths of so many bytes are refused as a whole. -/
def pathLimit : Nat := 4096

/-- Follows one step from a place. Only directories can be left, upwards too, and the root is
above itself. -/
def follow (tree : FileTree) (place : Place) (step : String) : Except FileError Place :=
  if !tree.isDirectoryAt place then .error .notADirectory
  else if step = "." then .ok place
  else if step = ".." then .ok place.dropLast
  else if longestName < step.utf8ByteSize then .error .nameTooLong
  else
    match tree.node? (place ++ [step]) with
    | none => .error .notFound
    | some _ => .ok (place ++ [step])

def followAll (tree : FileTree) (place : Place) : List String → Except FileError Place
  | [] => .ok place
  | step :: rest =>
    match tree.follow place step with
    | .error refusal => .error refusal
    | .ok next => tree.followAll next rest

/-- What is wrong with a path whatever the tree holds. -/
def pathFault? (path : FilePath) : Option FileError :=
  if '\x00' ∈ path.text.toList then some .endMarkInPath
  else if path.text = "" then some .notFound
  else if pathLimit ≤ path.text.utf8ByteSize then some .nameTooLong
  else none

/-- Where the steps of a path begin. -/
def origin (tree : FileTree) (path : FilePath) : Place :=
  if path.isAbsolute then [] else tree.start

/-- The place a path stands for. A slash at the end asks for a directory. -/
def locate (tree : FileTree) (path : FilePath) : Except FileError Place :=
  match pathFault? path with
  | some fault => .error fault
  | none =>
    match tree.followAll (tree.origin path) path.steps with
    | .error refusal => .error refusal
    | .ok place =>
      if path.endsInSlash && !tree.isDirectoryAt place then .error .notADirectory
      else .ok place

/-- Where an entry for a path would be: its directory, and its name if the path ends in one. -/
def destination (tree : FileTree) (path : FilePath) : Except FileError (Place × Option String) :=
  match pathFault? path with
  | some fault => .error fault
  | none =>
    match tree.followAll (tree.origin path) path.steps.dropLast with
    | .error refusal => .error refusal
    | .ok place =>
      if !tree.isDirectoryAt place then .error .notADirectory
      else
        match path.steps.getLast? with
        | none => .ok (place, none)
        | some name => .ok (place, if name = "." ∨ name = ".." then none else some name)

def isDirectory (tree : FileTree) (path : FilePath) : Bool :=
  match tree.locate path with
  | .error _ => false
  | .ok place => tree.isDirectoryAt place

def content (tree : FileTree) (path : FilePath) : Except FileError ByteArray :=
  match tree.locate path with
  | .error refusal => .error refusal
  | .ok place =>
    match tree.node? place with
    | none => .error .notFound
    | some .directory => .error .isADirectory
    | some (.file bytes) => .ok bytes

def text (tree : FileTree) (path : FilePath) : Except FileError String :=
  match tree.content path with
  | .error refusal => .error refusal
  | .ok bytes =>
    match String.fromUTF8? bytes with
    | none => .error .notText
    | some text => .ok text

/-- Writes a file that is there or makes a new one, in a directory that is there. -/
def write (tree : FileTree) (path : FilePath) (bytes : ByteArray) : Except FileError FileTree :=
  match tree.destination path with
  | .error refusal => .error refusal
  | .ok (_, none) => .error .isADirectory
  | .ok (place, some name) =>
    if path.endsInSlash then .error .isADirectory
    else if longestName < name.utf8ByteSize then .error .nameTooLong
    else if tree.isDirectoryAt (place ++ [name]) then .error .isADirectory
    else .ok (tree.put (place ++ [name]) (.file bytes))

def makeDirectory (tree : FileTree) (path : FilePath) : Except FileError FileTree :=
  match tree.destination path with
  | .error refusal => .error refusal
  | .ok (_, none) => .error .alreadyThere
  | .ok (place, some name) =>
    if longestName < name.utf8ByteSize then .error .nameTooLong
    else
      match tree.node? (place ++ [name]) with
      | some _ => .error .alreadyThere
      | none => .ok (tree.put (place ++ [name]) .directory)

def remove (tree : FileTree) (path : FilePath) : Except FileError FileTree :=
  match tree.locate path with
  | .error refusal => .error refusal
  | .ok place =>
    if tree.isDirectoryAt place then .error .isADirectory
    else .ok { tree with nodes := tree.nodes.filter fun entry => entry.1 ≠ place }

/-- A place below the start as a relative path, with a slash behind a directory. -/
def listed? (tree : FileTree) (entry : Place × FileNode) : Option String :=
  match entry.1.drop tree.start.length with
  | [] => none
  | names =>
    if tree.start.isPrefixOf entry.1 then
      some ("/".intercalate names ++ if entry.2.isDirectory then "/" else "")
    else none

/-- All that is below the start, in the order of the paths' characters. -/
def listing (tree : FileTree) : List String :=
  (tree.nodes.filterMap tree.listed?).mergeSort fun left right => !decide (right < left)

/-- Hands a changed tree on, or keeps the tree and gives the refusal. -/
def keepOr (result : Except FileError FileTree) : StateM FileTree (Except FileError Unit) :=
  match result with
  | .error refusal => return .error refusal
  | .ok changed => do
    set changed
    return .ok ()

/-- The requests on a tree that is passed along. -/
def access : FileAccess (StateM FileTree) where
  readText path := return (← get).text path
  isDirectory path := return (← get).isDirectory path
  makeDirectory path := do keepOr ((← get).makeDirectory path)
  writeText path text := do keepOr ((← get).write path text.toUTF8)

end FileTree

end SnapshotTypes
