import SnapshotTypes.Log
import SnapshotTypes.Text

/-!
Which entries of a log are shown. A filter is a list of limits, each for the parts of the program
whose names begin in a certain way or for all of them; the limit with the longest beginning
decides. It may also ask for a text in the message.
-/

set_option autoImplicit false

namespace SnapshotTypes.Log

/-- A limit for the parts whose names begin with `beginning`. Without a limit nothing is shown. -/
structure Directive where
  beginning : Option String
  limit : Option Level
deriving DecidableEq, Repr

namespace Directive

def appliesTo (directive : Directive) (origin : Origin) : Bool :=
  match directive.beginning with
  | none => true
  | some beginning => beginning.toList.isPrefixOf origin.name.toList

def weight (directive : Directive) : Nat :=
  match directive.beginning with
  | none => 0
  | some beginning => beginning.utf8ByteSize

/-- A directive takes the place of an earlier one for the same beginning. -/
def insert (directive : Directive) : List Directive → List Directive
  | [] => [directive]
  | first :: rest =>
    if first.beginning = directive.beginning then directive :: rest
    else first :: insert directive rest

end Directive

structure Filter where
  directives : List Directive
  needle : Option String
deriving DecidableEq, Repr

namespace Filter

/-- One limit for all parts. -/
def ofLevel (level : Level) : Filter := ⟨[⟨none, some level⟩], none⟩

/-- Of the directives that apply, the one with the longest beginning, the later one of two alike. -/
def deciding (filter : Filter) (origin : Origin) : Option Directive :=
  (filter.directives.filter fun directive => directive.appliesTo origin).foldl
    (fun best directive =>
      match best with
      | none => some directive
      | some leading => if directive.weight < leading.weight then best else some directive)
    none

/-- The filter's text is looked for anywhere in a message. -/
def mentions (needle : Option String) (message : String) : Bool :=
  match needle with
  | none => true
  | some needle => Text.occursIn needle.toList message.toList

def shows (filter : Filter) (entry : Entry) : Bool :=
  match filter.deciding entry.origin with
  | none => false
  | some directive => admits directive.limit entry.level && mentions filter.needle entry.message

end Filter

/-!
## Specifications

Filters as a user writes them: `warn`, `directus_ts_schema::lower=debug`, or several of these with
commas between them. A part that cannot be understood is left out, with a warning.
-/

/-- The limits by name, in any letter case. `off` is no level. -/
def limitOfName? (name : List Char) : Option (Option Level) :=
  [("off", none), ("error", some Level.error), ("warn", some .warn), ("info", some .info),
    ("debug", some .debug), ("trace", some .trace)].lookup
      (String.ofList (name.map Char.toLower))

/-- What a specification of a filter gives, and what is wrong with parts of it. -/
structure Specified where
  directives : List Directive
  needle : Option String
  warnings : List String
deriving DecidableEq, Repr

def warning (text : List Char) (detail : String) : String :=
  "warning: invalid logging spec '" ++ String.ofList text ++ "', ignoring it" ++ detail

/-- A part of a specification: a limit, a beginning, or both with an equals sign between them.
A beginning alone has no limit but the last level. -/
def directiveOf (part : List Char) : Except String Directive :=
  match Text.split '=' part with
  | [word] =>
    match limitOfName? word with
    | some limit => .ok ⟨none, limit⟩
    | none => .ok ⟨some (String.ofList word), some .trace⟩
  | [beginning, word] =>
    let level := Text.trimmed word
    if level.isEmpty then .ok ⟨some (String.ofList beginning), some .trace⟩
    else
      match limitOfName? level with
      | some limit => .ok ⟨some (String.ofList beginning), limit⟩
      | none => .error (warning level "")
  | _ => .error (warning part "")

def directivesOf : List (List Char) → List Directive × List String
  | [] => ([], [])
  | part :: rest =>
    let (directives, warnings) := directivesOf rest
    if part.isEmpty then (directives, warnings)
    else
      match directiveOf part with
      | .ok directive => (directive :: directives, warnings)
      | .error text => (directives, text :: warnings)

/-- Reads parts between commas, and a text to look for behind a slash. -/
def Specified.ofText (text : String) : Specified :=
  match Text.split '/' text.toList with
  | [] => ⟨[], none, []⟩
  | [parts] =>
    let (directives, warnings) := directivesOf ((Text.split ',' parts).map Text.trimmed)
    ⟨directives, none, warnings⟩
  | [parts, needle] =>
    let (directives, warnings) := directivesOf ((Text.split ',' parts).map Text.trimmed)
    ⟨directives, some (String.ofList needle), warnings⟩
  | _ => ⟨[], none, [warning text.toList " (too many '/'s)"]⟩

def Filter.amended (filter : Filter) (specified : Specified) : Filter :=
  ⟨specified.directives.foldl (fun directives directive => directive.insert directives)
    filter.directives, specified.needle⟩

end SnapshotTypes.Log
