import SnapshotTypes.Generation
import SnapshotTypes.CommandLine.Message

/-!
Command lines, read word by word. A value that stands in a word of its own takes effect when the
next argument begins, or at the end; until then it is pending.
-/

set_option autoImplicit false

namespace SnapshotTypes.CommandLine

/-!
## Options
-/

structure Options where
  schemaFile : FilePath
  outFile : FilePath
  useNamespace : Bool
  verbosity : Nat
deriving DecidableEq, Repr

def defaultOutFile : FilePath := ⟨"schema.ts"⟩

/-- Verbosity is not counted beyond this. -/
def highestVerbosity : Nat := 255

namespace Options

def logLevel (options : Options) : Log.Level :=
  match options.verbosity with
  | 0 => .warn
  | 1 => .info
  | 2 => .debug
  | _ => .trace

def job (options : Options) : Job :=
  ⟨options.schemaFile, options.outFile, .ofUseNamespace options.useNamespace⟩

end Options

/-!
## Reading
-/

/-- Why reading ends without options. -/
inductive Stop where
  | help
  | version
  | refused (refusal : Refusal)
deriving DecidableEq, Repr

inductive Pending where
  /-- An output option, with its value if the word with it has come. -/
  | outFile (value : Option String)
  | schemaFile (value : String)
deriving DecidableEq, Repr

structure Reading where
  schemaFile : Option String
  outFile : Option String
  useNamespace : Bool
  verbosity : Nat
  /-- The named arguments that took effect, in the order in which they last did. -/
  used : List Argument
  pending : Option Pending
  /-- The mark `--` has come, and all that follows is taken as it is. -/
  afterMark : Bool
deriving DecidableEq, Repr

namespace Reading

def start : Reading := ⟨none, none, false, 0, [], none, false⟩

/-- A value for the output. A second value is refused even if it is empty. -/
def takeOutFile (reading : Reading) (value : String) : Reading × Option Refusal :=
  if reading.outFile.isSome then
    ({ reading with outFile := none, used := reading.used.erase .outFile },
      some (.repeated .outFile))
  else
    ({ reading with outFile := some value, used := reading.used ++ [.outFile] },
      if value = "" then some (.emptyValue .outFile) else none)

/-- Lets what is pending take effect. -/
def resolve (reading : Reading) : Reading × Option Refusal :=
  let idle := { reading with pending := none }
  match reading.pending with
  | none => (idle, none)
  | some (.outFile none) => (idle, some (.emptyValue .outFile))
  | some (.outFile (some value)) => idle.takeOutFile value
  | some (.schemaFile value) =>
    if value = "" then (idle, some (.emptyValue .schemaFile))
    else ({ idle with schemaFile := some value }, none)

def accepted : Reading × Option Refusal → Except Stop Reading
  | (reading, none) => .ok reading
  | (_, some refusal) => .error (.refused refusal)

def settled (reading : Reading) : Except Stop Reading :=
  accepted reading.resolve

/-- The arguments that took effect, whatever is wrong with what is pending. -/
def usedAfterResolving (reading : Reading) : List Argument :=
  reading.resolve.1.used

def hasSchemaFile (reading : Reading) : Bool :=
  match reading.pending with
  | some (.schemaFile _) => true
  | _ => reading.schemaFile.isSome

/-- An argument that takes no value. -/
def flag (reading : Reading) (argument : Argument) : Except Stop Reading :=
  match reading.settled with
  | .error stop => .error stop
  | .ok idle =>
    match argument with
    | .help => .error .help
    | .version => .error .version
    | .verbose =>
      .ok { idle with
        verbosity := min (idle.verbosity + 1) highestVerbosity
        used := idle.used.erase .verbose ++ [.verbose] }
    | .useNamespace =>
      if idle.useNamespace then .error (.refused (.repeated .useNamespace))
      else .ok { idle with useNamespace := true, used := idle.used ++ [.useNamespace] }
    | .outFile | .schemaFile => .ok idle

/-- An output option whose value is to follow in the next word. -/
def expectOutFile (reading : Reading) : Except Stop Reading :=
  match reading.settled with
  | .error stop => .error stop
  | .ok idle => .ok { idle with pending := some (.outFile none) }

/-- An output option that carries its value. -/
def attachOutFile (reading : Reading) (value : String) : Except Stop Reading :=
  match reading.settled with
  | .error stop => .error stop
  | .ok idle => accepted (idle.takeOutFile value)

/-- Names at least so alike are taken for misspelt. -/
def misspeltFrom : Text.Share := ⟨7, 10⟩

def unknownName (reading : Reading) (name : String) : Refusal :=
  let used := reading.usedAfterResolving
  let names := Argument.named.filterMap Argument.longName?
  match Text.mostSimilar misspeltFrom name names with
  | none => .unknown ("--" ++ name) (some .afterMark) (.ofArguments used)
  | some similar =>
    let meant := (Argument.ofLongName? similar).toList.filter fun argument => argument ∉ used
    .unknown ("--" ++ name) (some (.similar similar)) (.ofArguments (used ++ meant))

/-- A value behind the name of an argument that takes none. -/
def unneededValue (reading : Reading) (argument : Argument) (value : String) : Refusal :=
  let others := if argument ∈ reading.used then [] else [argument]
  .unneededValue argument value (.ofArguments (reading.used ++ others))

/-- A word `--name` or `--name=value`. -/
def longWord (reading : Reading) (name : String) (value : Option String) : Except Stop Reading :=
  match Argument.ofLongName? name with
  | none => .error (.refused (reading.unknownName name))
  | some .outFile =>
    match value with
    | none => reading.expectOutFile
    | some value => reading.attachOutFile value
  | some argument =>
    match value with
    | none => reading.flag argument
    | some value => .error (.refused (reading.unneededValue argument value))

/-- A word of letters behind one dash. What follows the letter of an option with a value is its
value, after an equals sign if there is one. -/
def letters (reading : Reading) : List Char → Except Stop Reading
  | [] => .ok reading
  | letter :: rest =>
    match Argument.ofLetter? letter with
    | none =>
      .error (.refused (.unknown (String.ofList ['-', letter]) (some .afterMark) .general))
    | some .outFile =>
      match rest with
      | [] => reading.expectOutFile
      | '=' :: value => reading.attachOutFile (String.ofList value)
      | value => reading.attachOutFile (String.ofList value)
    | some argument =>
      match reading.flag argument with
      | .error stop => .error stop
      | .ok next => next.letters rest

/-- A word that stands for itself. There is a place for one only. -/
def positional (reading : Reading) (word : String) : Except Stop Reading :=
  if reading.hasSchemaFile then .error (.refused (.unknown word none .general))
  else
    match reading.settled with
    | .error stop => .error stop
    | .ok idle => .ok { idle with pending := some (.schemaFile word) }

/-- A word without a dash, or the dash alone. -/
def value (reading : Reading) (word : String) : Except Stop Reading :=
  match reading.pending with
  | some (.outFile none) => .ok { reading with pending := some (.outFile (some word)) }
  | _ => reading.positional word

def word (reading : Reading) (word : String) : Except Stop Reading :=
  if reading.afterMark then reading.positional word
  else
    match word.toList with
    | ['-', '-'] => .ok { reading with afterMark := true }
    | '-' :: '-' :: rest =>
      let name := String.ofList (rest.takeWhile (· ≠ '='))
      match rest.dropWhile (· ≠ '=') with
      | [] => reading.longWord name none
      | _ :: attached => reading.longWord name (some (String.ofList attached))
    | '-' :: letter :: rest => reading.letters (letter :: rest)
    | _ => reading.value word

def words (reading : Reading) : List String → Except Stop Reading
  | [] => .ok reading
  | next :: rest =>
    match reading.word next with
    | .error stop => .error stop
    | .ok after => after.words rest

def finish (reading : Reading) : Except Stop Options :=
  match reading.settled with
  | .error stop => .error stop
  | .ok idle =>
    match idle.schemaFile with
    | none => .error (.refused (.missingSchemaFile (.withArguments idle.used)))
    | some schemaFile =>
      .ok ⟨⟨schemaFile⟩, (idle.outFile.map FilePath.mk).getD defaultOutFile, idle.useNamespace,
        idle.verbosity⟩

end Reading

def Options.parse (words : List String) : Except Stop Options :=
  match Reading.start.words words with
  | .error stop => .error stop
  | .ok reading => reading.finish

end SnapshotTypes.CommandLine
