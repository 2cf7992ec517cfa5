/-!
What the program reports beside its result.
-/

set_option autoImplicit false

namespace SnapshotTypes.Log

/-- Levels from the gravest to the most talkative. -/
inductive Level where
  | error
  | warn
  | info
  | debug
  | trace
deriving DecidableEq, Repr

namespace Level

def rank : Level → Nat
  | error => 1
  | warn => 2
  | info => 3
  | debug => 4
  | trace => 5

def name : Level → String
  | error => "ERROR"
  | warn => "WARN"
  | info => "INFO"
  | debug => "DEBUG"
  | trace => "TRACE"

end Level

inductive Origin where
  | loading
  | assembly
  | commandLine
deriving DecidableEq, Repr

/-- The name under which the entries of a part are filtered and printed. -/
def Origin.name : Origin → String
  | loading => "directus_ts_schema::snapshot"
  | assembly => "directus_ts_schema::lower"
  | commandLine => "directus_ts_schema::cli"

structure Entry where
  level : Level
  origin : Origin
  message : String
deriving DecidableEq, Repr

/-- The gravest levels are admitted first; without a level nothing is. -/
def admits (limit : Option Level) (level : Level) : Bool :=
  match limit with
  | none => false
  | some limit => level.rank ≤ limit.rank

def admitted (limit : Option Level) (log : List Entry) : List Entry :=
  log.filter fun entry => admits limit entry.level

/-- The lines of a message, all but the first moved in. -/
def movedIn (message : String) : String :=
  String.ofList (message.toList.flatMap fun c =>
    if c = '\n' then ['\n', ' ', ' ', ' ', ' '] else [c])

def Level.padded (level : Level) : String :=
  level.name ++ String.ofList (List.replicate (5 - level.name.length) ' ')

def Entry.line (entry : Entry) : String :=
  "[" ++ entry.level.padded ++ " " ++ entry.origin.name ++ "] " ++ movedIn entry.message ++ "\n"

end SnapshotTypes.Log
