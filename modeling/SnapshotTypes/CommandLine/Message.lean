import SnapshotTypes.Text

/-!
The arguments of the program as they are shown, in its help and where a command line is not
understood.
-/

set_option autoImplicit false

namespace SnapshotTypes.CommandLine

/-!
## Arguments
-/

def programName : String := "directus-ts-schema"

def programVersion : String := "0.1.0"

/-- The schema file stands by its place, all others have names. -/
inductive Argument where
  | schemaFile
  | outFile
  | useNamespace
  | verbose
  | help
  | version
deriving DecidableEq, Repr

namespace Argument

/-- The arguments with names, in the order in which they are listed. -/
def named : List Argument := [outFile, useNamespace, verbose, help, version]

def longName? : Argument → Option String
  | schemaFile => none
  | outFile => some "out-file"
  | useNamespace => some "use-namespace"
  | verbose => some "verbose"
  | help => some "help"
  | version => some "version"

def letter? : Argument → Option Char
  | schemaFile => none
  | outFile => some 'o'
  | useNamespace => some 'n'
  | verbose => some 'v'
  | help => some 'h'
  | version => some 'V'

/-- Names are not abbreviated. -/
def ofLongName? (name : String) : Option Argument :=
  named.find? fun argument => argument.longName? == some name

def ofLetter? (letter : Char) : Option Argument :=
  named.find? fun argument => argument.letter? == some letter

/-- What stands for the value in descriptions, or the mark of an argument that may be repeated. -/
def tail : Argument → String
  | schemaFile => "<SCHEMA_FILE>"
  | outFile => " <OUT_FILE>"
  | verbose => "..."
  | useNamespace | help | version => ""

def shown (argument : Argument) : Text.Styled :=
  match argument.longName? with
  | none => Text.Styled.plain argument.tail
  | some name => Text.Styled.verbatim ("--" ++ name) ++ Text.Styled.plain argument.tail

def description : Argument → String
  | schemaFile => "path to Directus schema file (JSON or YAML)"
  | outFile => "path to output file [default: schema.ts]"
  | useNamespace => "put collection types in a namespace"
  | verbose => "more log output (-v info, -vv debug, -vvv trace)"
  | help => "Print help"
  | version => "Print version"

end Argument

/-!
## Usage

How the program is called, in one line and in full.
-/

open Text (Styled)

/-- A call in general, or one with certain arguments before the schema file. -/
inductive Usage where
  | general
  | withArguments (arguments : List Argument)
deriving DecidableEq, Repr

/-- Without certain arguments a call is shown in general. -/
def Usage.ofArguments : List Argument → Usage
  | [] => general
  | arguments => withArguments arguments

def Usage.arguments : Usage → Styled
  | general => Styled.plain " [OPTIONS]"
  | withArguments arguments =>
    arguments.flatMap fun argument => Styled.plain " " ++ argument.shown

def Usage.shown (usage : Usage) : Styled :=
  Styled.heading "Usage:" ++ Styled.plain " " ++ Styled.verbatim programName ++ usage.arguments ++
    Styled.plain " " ++ Argument.schemaFile.shown

/-- The letter and the name of an argument. -/
def Argument.introduced (argument : Argument) : Styled :=
  match argument.letter? with
  | none => argument.shown
  | some letter =>
    Styled.verbatim (String.ofList ['-', letter]) ++ Styled.plain ", " ++ argument.shown

/-- The lines of a list of arguments, with their descriptions in one column. -/
def described (arguments : List Argument) : Styled :=
  let width := (arguments.map fun argument => argument.introduced.bare.length).foldl max 0
  arguments.flatMap fun argument =>
    let padding := String.ofList (List.replicate (width - argument.introduced.bare.length + 2) ' ')
    Styled.plain "  " ++ argument.introduced ++
      Styled.plain (padding ++ argument.description ++ "\n")

def helpText : Styled :=
  Styled.plain "Generates TypeScript types from a Directus schema snapshot\n\n" ++
    Usage.general.shown ++ Styled.plain "\n\n" ++
    Styled.heading "Arguments:" ++ Styled.plain "\n" ++ described [.schemaFile] ++
    Styled.plain "\n" ++
    Styled.heading "Options:" ++ Styled.plain "\n" ++ described Argument.named

def versionText : Styled :=
  Styled.plain (programName ++ " " ++ programVersion ++ "\n")

/-!
## Refusals

Why a command line is not understood, and what the user is told of it.
-/

/-- What may have been meant by an unknown argument. -/
inductive Tip where
  | similar (name : String)
  /-- A value that looks like an option can be given after `--`. -/
  | afterMark
deriving DecidableEq, Repr

inductive Refusal where
  | unknown (word : String) (tip : Option Tip) (usage : Usage)
  | emptyValue (argument : Argument)
  | unneededValue (argument : Argument) (value : String) (usage : Usage)
  | repeated (argument : Argument)
  | missingSchemaFile (usage : Usage)
deriving DecidableEq, Repr

namespace Refusal

def reason : Refusal → Styled
  | unknown word _ _ =>
    Styled.plain "unexpected argument '" ++ Styled.faulty word ++ Styled.plain "' found"
  | emptyValue argument =>
    Styled.plain "a value is required for '" ++ Styled.faulty argument.shown.bare ++
      Styled.plain "' but none was supplied"
  | unneededValue argument value _ =>
    Styled.plain "unexpected value '" ++ Styled.faulty value ++ Styled.plain "' for '" ++
      Styled.verbatim argument.shown.bare ++ Styled.plain "' found; no more were expected"
  | repeated argument =>
    Styled.plain "the argument '" ++ Styled.faulty argument.shown.bare ++
      Styled.plain "' cannot be used multiple times"
  | missingSchemaFile _ =>
    Styled.plain "the following required arguments were not provided:\n  " ++
      Styled.helpful Argument.schemaFile.shown.bare

def tip? : Refusal → Option Styled
  | unknown _ (some (.similar name)) _ =>
    some (Styled.plain "a similar argument exists: '" ++ Styled.helpful ("--" ++ name) ++
      Styled.plain "'")
  | unknown word (some .afterMark) _ =>
    some (Styled.plain "to pass '" ++ Styled.faulty word ++ Styled.plain "' as a value, use '" ++
      Styled.helpful ("-- " ++ word) ++ Styled.plain "'")
  | _ => none

def usage? : Refusal → Option Usage
  | unknown _ _ usage => some usage
  | emptyValue _ => none
  | unneededValue _ _ usage => some usage
  | repeated _ => some .general
  | missingSchemaFile usage => some usage

def tipLines (refusal : Refusal) : Styled :=
  match refusal.tip? with
  | none => []
  | some tip => Styled.plain "\n\n  " ++ Styled.helpful "tip:" ++ Styled.plain " " ++ tip

def usageLines (refusal : Refusal) : Styled :=
  match refusal.usage? with
  | none => []
  | some usage => Styled.plain "\n\n" ++ usage.shown

def message (refusal : Refusal) : Styled :=
  [⟨.alarm, "error:"⟩] ++ Styled.plain " " ++ refusal.reason ++ refusal.tipLines ++
    refusal.usageLines ++ Styled.plain "\n\nFor more information, try '" ++
    Styled.verbatim "--help" ++ Styled.plain "'.\n"

end Refusal

end SnapshotTypes.CommandLine
