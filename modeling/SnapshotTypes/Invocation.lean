import SnapshotTypes.CommandLine.Reading
import SnapshotTypes.Log.Filter

/-!
One call of the program: its words and the variables around it, to what it prints and its exit
code.
-/

set_option autoImplicit false

namespace SnapshotTypes

structure Environment where
  colourForced : Option String
  colourUnwanted : Option String
  logFilter : Option String
deriving DecidableEq, Repr

namespace Environment

def colourForcedName : String := "CLICOLOR_FORCE"

def colourUnwantedName : String := "NO_COLOR"

def logFilterName : String := "RUST_LOG"

def ofVariables (settings : List (String × String)) : Environment :=
  ⟨settings.lookup colourForcedName, settings.lookup colourUnwantedName,
    settings.lookup logFilterName⟩

/-- Any value but zero forces colours. -/
def forcesColour (environment : Environment) : Bool :=
  match environment.colourForced with
  | none => false
  | some value => value ≠ "0"

/-- Texts about the command line itself respect the wish for no colours. -/
def coloursCommandLine (environment : Environment) : Bool :=
  environment.forcesColour && environment.colourUnwanted.getD "" == ""

end Environment

structure Outcome where
  exitCode : UInt32
  standardOutput : String
  standardError : String
deriving DecidableEq, Repr

namespace Outcome

/-- The exit code of a failure, and that of a command line that is not understood. -/
def failureCode : UInt32 := 1

def misuseCode : UInt32 := 2

def ofStop (environment : Environment) : CommandLine.Stop → Outcome
  | .help => ⟨0, CommandLine.helpText.written environment.coloursCommandLine, ""⟩
  | .version => ⟨0, CommandLine.versionText.written environment.coloursCommandLine, ""⟩
  | .refused refusal =>
    ⟨misuseCode, "", refusal.message.written environment.coloursCommandLine⟩

def alarm (environment : Environment) : String :=
  if environment.forcesColour then "\x1b[1;31merror:\x1b[0m" else "error:"

def failureLine (environment : Environment) (failure : JobFailure) : String :=
  alarm environment ++ " " ++ failure.message ++ "\n"

def ofJob (environment : Environment) (level : Log.Level) (log : List Log.Entry)
    (result : Except JobFailure Unit) : Outcome :=
  let specified := Log.Specified.ofText (environment.logFilter.getD "")
  let filter := (Log.Filter.ofLevel level).amended specified
  let report := String.join (specified.warnings.map (· ++ "\n")) ++
    String.join ((log.filter filter.shows).map Log.Entry.line)
  match result with
  | .ok () => ⟨0, "", report⟩
  | .error failure => ⟨failureCode, "", report ++ failureLine environment failure⟩

end Outcome

variable {m : Type → Type} [Monad m]

def FileAccess.invoke (access : FileAccess m) (environment : Environment) (words : List String) :
    m Outcome :=
  match CommandLine.Options.parse words with
  | .error stop => return .ofStop environment stop
  | .ok options => do
    let (log, result) ← access.perform options.job
    return .ofJob environment options.logLevel log result

end SnapshotTypes
