import SnapshotTypes.Yaml.Block
import SnapshotTypes.Yaml.Scalar
import SnapshotTypes.Yaml.Tag

/-!
From text to tokens. Whether a token begins a mapping key shows only at the colon after it, so
tokens wait until no key can be put before them. A fault keeps back the tokens that still wait.
-/

set_option autoImplicit false

namespace SnapshotTypes.Yaml

/-- A token that is a mapping key if a colon follows it, by its number among all tokens. It has to
be a key if the context allows nothing else. -/
structure PossibleKey where
  required : Bool
  number : Nat
  mark : Mark
deriving DecidableEq, Repr

/-- Between two tokens. Columns of block collections are `-1` outside all of them, and every flow
collection that is open has a possible key of its own. -/
structure Scanner where
  cursor : Cursor
  /-- Whether a token that comes next may be a key. -/
  keyAllowed : Bool
  indent : Int
  outerIndents : List Int
  key : Option PossibleKey
  outerKeys : List (Option PossibleKey)
  /-- The number of tokens that no longer wait. -/
  released : Nat
  waiting : List Token

namespace Scanner

def start (text : List Char) : Scanner where
  cursor := .start text
  keyAllowed := true
  indent := -1
  outerIndents := []
  key := none
  outerKeys := []
  released := 0
  waiting := []

def mark (scanner : Scanner) : Mark := scanner.cursor.mark

def inFlow (scanner : Scanner) : Bool := !scanner.outerKeys.isEmpty

def push (scanner : Scanner) (kind : TokenKind) (start stop : Mark) : Scanner :=
  { scanner with waiting := scanner.waiting ++ [⟨kind, start, stop⟩] }

/-- Puts a token without extent before the one of a given number. -/
def insert (scanner : Scanner) (number : Nat) (kind : TokenKind) (mark : Mark) : Scanner :=
  let position := number - scanner.released
  { scanner with
    waiting := scanner.waiting.take position ++ ⟨kind, mark, mark⟩ ::
      scanner.waiting.drop position }

/-- The fault of a required key without a colon, met at the present place. -/
def missingColon (scanner : Scanner) (key : PossibleKey) : Malformed :=
  .within .scanningKey key.mark .noColon scanner.mark

/-- Keys end on the line where they begin, and within 1024 characters. -/
def isStale (scanner : Scanner) (key : PossibleKey) : Bool :=
  key.mark.line < scanner.mark.line || key.mark.index + 1024 < scanner.mark.index

/-- Drops the possible keys that can no longer be keys. -/
def dropStale (scanner : Scanner) : Except Malformed Scanner :=
  let keys := scanner.key :: scanner.outerKeys
  match keys.findSome? fun key => key.filter fun key => key.required && scanner.isStale key with
  | some key => .error (scanner.missingColon key)
  | none =>
    let keep (key : Option PossibleKey) := key.filter fun key => !scanner.isStale key
    .ok { scanner with key := keep scanner.key, outerKeys := scanner.outerKeys.map keep }

/-- Gives up the possible key of the innermost collection. -/
def dropKey (scanner : Scanner) : Except Malformed Scanner :=
  match scanner.key with
  | none => .ok scanner
  | some key =>
    if key.required then .error (scanner.missingColon key) else .ok { scanner with key := none }

/-- Notes that the token that comes next may be a key. -/
def saveKey (scanner : Scanner) : Except Malformed Scanner :=
  if !scanner.keyAllowed then .ok scanner
  else
    match scanner.dropKey with
    | .error fault => .error fault
    | .ok scanner =>
      let required := !scanner.inFlow && scanner.indent == scanner.cursor.column
      let number := scanner.released + scanner.waiting.length
      .ok { scanner with key := some ⟨required, number, scanner.mark⟩ }

/-- Opens a block collection at a column deeper than that of the innermost one. Its token goes
before the one of the given number, or to the end. -/
def openBlock (scanner : Scanner) (column : Nat) (number : Option Nat) (kind : TokenKind)
    (mark : Mark) : Scanner :=
  if scanner.inFlow || (column : Int) ≤ scanner.indent then scanner
  else
    let opened := { scanner with
      indent := column, outerIndents := scanner.indent :: scanner.outerIndents }
    match number with
    | none => opened.push kind mark mark
    | some number => opened.insert number kind mark

/-- Closes block collections from the innermost one, given with those around it, up to a column. -/
def closeFrom (column : Int) : Int → List Int → Scanner → Scanner
  | indent, [], scanner => { scanner with indent := indent, outerIndents := [] }
  | indent, outer :: rest, scanner =>
    if column < indent then
      closeFrom column outer rest (scanner.push .blockEnd scanner.mark scanner.mark)
    else { scanner with indent := indent, outerIndents := outer :: rest }

def closeBlocks (scanner : Scanner) (column : Int) : Scanner :=
  if scanner.inFlow then scanner
  else closeFrom column scanner.indent scanner.outerIndents scanner

/-- Moves to a place and adds the token that ends there. -/
def take (scanner : Scanner) (kind : TokenKind) (next : Cursor) : Scanner :=
  { scanner.push kind scanner.mark next.mark with cursor := next }

/-- Moves to the next token over white space and comments. A new line may begin a key, and tabs
separate tokens only where no key may begin. -/
def skipSpace : List Char → Scanner → Scanner
  | [], scanner => scanner
  | _ :: budget, scanner =>
    let tabs := scanner.inFlow || !scanner.keyAllowed
    let cursor := (scanner.cursor.skipWhile fun c => c == ' ' || (tabs && c == '\t')).skipComment
    if cursor.rest.head?.any isBreak then
      skipSpace budget { scanner with
        cursor := cursor.skipBreak, keyAllowed := scanner.keyAllowed || !scanner.inFlow }
    else { scanner with cursor := cursor }

/-- A byte order mark may stand at the very start. -/
def skipByteOrderMark (scanner : Scanner) : Scanner :=
  if scanner.mark.index = 0 ∧ scanner.cursor.rest.head? = some '\ufeff' then
    { scanner with cursor := scanner.cursor.skip 1 }
  else scanner

/-- The end of the text counts as a line break. -/
def endStream (scanner : Scanner) : Except Malformed Scanner :=
  let mark := if scanner.cursor.column = 0 then scanner.mark else scanner.mark.down 0
  let scanner := { scanner with cursor := ⟨mark, []⟩ }.closeBlocks (-1)
  match scanner.dropKey with
  | .error fault => .error fault
  | .ok scanner => .ok ({ scanner with keyAllowed := false }.push .streamEnd mark mark)

/-- Ends all block collections and forbids a key, before a document indicator or a directive. -/
def endBlocks (scanner : Scanner) : Except Malformed Scanner :=
  match (scanner.closeBlocks (-1)).dropKey with
  | .error fault => .error fault
  | .ok scanner => .ok { scanner with keyAllowed := false }

def fetchDirective (scanner : Scanner) : Except Malformed Scanner := do
  let scanner ← scanner.endBlocks
  let (kind, stop, next) ← readDirective scanner.cursor
  .ok { scanner.push kind scanner.mark stop with cursor := next }

def fetchDocumentIndicator (kind : TokenKind) (scanner : Scanner) : Except Malformed Scanner := do
  let scanner ← scanner.endBlocks
  .ok (scanner.take kind (scanner.cursor.skip 3))

/-- The bracket that opens a flow collection may begin a key. -/
def fetchFlowStart (kind : TokenKind) (scanner : Scanner) : Except Malformed Scanner := do
  let scanner ← scanner.saveKey
  let inner := { scanner with
    key := none, outerKeys := scanner.key :: scanner.outerKeys, keyAllowed := true }
  .ok (inner.take kind (scanner.cursor.skip 1))

def fetchFlowEnd (kind : TokenKind) (scanner : Scanner) : Except Malformed Scanner := do
  let scanner ← scanner.dropKey
  let outer := match scanner.outerKeys with
    | [] => scanner
    | key :: keys => { scanner with key := key, outerKeys := keys }
  .ok ({ outer with keyAllowed := false }.take kind (scanner.cursor.skip 1))

def fetchFlowEntry (scanner : Scanner) : Except Malformed Scanner := do
  let scanner ← scanner.dropKey
  .ok ({ scanner with keyAllowed := true }.take .flowEntry (scanner.cursor.skip 1))

/-- A hyphen in a flow collection is left for the grammar to refuse. -/
def fetchBlockEntry (scanner : Scanner) : Except Malformed Scanner := do
  if !scanner.inFlow && !scanner.keyAllowed then
    .error (.plain .entryNotAllowed scanner.mark)
  else
    let opened := scanner.openBlock scanner.cursor.column none .blockSequenceStart scanner.mark
    let scanner ← opened.dropKey
    .ok ({ scanner with keyAllowed := true }.take .blockEntry (scanner.cursor.skip 1))

def fetchKey (scanner : Scanner) : Except Malformed Scanner := do
  if !scanner.inFlow && !scanner.keyAllowed then
    .error (.plain .keyNotAllowed scanner.mark)
  else
    let opened := scanner.openBlock scanner.cursor.column none .blockMappingStart scanner.mark
    let scanner ← opened.dropKey
    .ok ({ scanner with keyAllowed := !scanner.inFlow }.take .key (scanner.cursor.skip 1))

/-- A colon makes a key of the possible key before it, and a mapping if there is none at its
column yet. -/
def fetchValue (scanner : Scanner) : Except Malformed Scanner :=
  match scanner.key with
  | some key =>
    let scanner := scanner.insert key.number .key key.mark
    let scanner := scanner.openBlock key.mark.column (some key.number) .blockMappingStart key.mark
    .ok ({ scanner with key := none, keyAllowed := false }.take .value (scanner.cursor.skip 1))
  | none =>
    if !scanner.inFlow && !scanner.keyAllowed then
      .error (.plain .valueNotAllowed scanner.mark)
    else
      let opened := scanner.openBlock scanner.cursor.column none .blockMappingStart scanner.mark
      .ok ({ opened with keyAllowed := !scanner.inFlow }.take .value (scanner.cursor.skip 1))

/-- The characters that may follow the name of an anchor or an alias. -/
def endsName (text : List Char) : Bool :=
  atBlank text || text.head?.any "?:,]\x7d%@`".toList.contains

/-- Anchors and aliases, which may begin a key. -/
def fetchName (kind : List Char → TokenKind) (context : Context) (scanner : Scanner) :
    Except Malformed Scanner := do
  let scanner ← scanner.saveKey
  let (name, next) := (scanner.cursor.skip 1).takeWhile isNameChar
  if name = [] || !endsName next.rest then
    .error (.within context scanner.mark .noName next.mark)
  else .ok ({ scanner with keyAllowed := false }.take (kind name) next)

def fetchTag (scanner : Scanner) : Except Malformed Scanner := do
  let scanner ← scanner.saveKey
  let (kind, next) ← readTag scanner.inFlow scanner.cursor
  .ok ({ scanner with keyAllowed := false }.take kind next)

def fetchBlockScalar (style : ScalarStyle) (scanner : Scanner) : Except Malformed Scanner := do
  let scanner ← scanner.dropKey
  let (text, next) ← readBlock (style == .folded) scanner.indent scanner.cursor
  .ok ({ scanner with keyAllowed := true }.take (.scalar text style) next)

def fetchQuoted (quote : Char) (style : ScalarStyle) (scanner : Scanner) :
    Except Malformed Scanner := do
  let scanner ← scanner.saveKey
  let (text, next) ← readQuoted quote scanner.cursor
  .ok ({ scanner with keyAllowed := false }.take (.scalar text style) next)

/-- A plain scalar that ended after a line break leaves a place where a key may begin. -/
def fetchPlain (scanner : Scanner) : Except Malformed Scanner := do
  let scanner ← scanner.saveKey
  let scalar ← readPlain scanner.inFlow scanner.indent scanner.cursor
  let ended := scanner.push (.scalar scalar.text .plain) scanner.mark scalar.stop
  .ok { ended with cursor := scalar.cursor, keyAllowed := scalar.broken }

/-- The characters that begin something else than a plain scalar. -/
def isIndicator (c : Char) : Bool :=
  "-?:,[]\x7b\x7d#&*!|>'\"%@`".toList.contains c

/-- Whether a plain scalar begins with `c`, which `rest` follows. -/
def beginsPlain (inFlow : Bool) (c : Char) (rest : List Char) : Bool :=
  !(isBlank c || isBreak c || isIndicator c) ||
    (c == '-' && !rest.head?.any isBlank) ||
    (!inFlow && (c == '?' || c == ':') && !atBlank rest)

/-- Reads the token that begins with `c`, which `rest` follows. -/
def fetchAt (scanner : Scanner) (c : Char) (rest : List Char) : Except Malformed Scanner :=
  let indicator := scanner.cursor.atDocumentIndicator
  let blankNext := scanner.inFlow || atBlank rest
  if scanner.cursor.column = 0 ∧ c = '%' then scanner.fetchDirective
  else if indicator ∧ c = '-' then scanner.fetchDocumentIndicator .documentStart
  else if indicator then scanner.fetchDocumentIndicator .documentEnd
  else if c = '[' then scanner.fetchFlowStart .flowSequenceStart
  else if c = '{' then scanner.fetchFlowStart .flowMappingStart
  else if c = ']' then scanner.fetchFlowEnd .flowSequenceEnd
  else if c = '}' then scanner.fetchFlowEnd .flowMappingEnd
  else if c = ',' then scanner.fetchFlowEntry
  else if c = '-' ∧ atBlank rest then scanner.fetchBlockEntry
  else if c = '?' ∧ blankNext then scanner.fetchKey
  else if c = ':' ∧ blankNext then scanner.fetchValue
  else if c = '*' then scanner.fetchName .aliased .scanningAlias
  else if c = '&' then scanner.fetchName .anchor .scanningAnchor
  else if c = '!' then scanner.fetchTag
  else if c = '|' ∧ !scanner.inFlow then scanner.fetchBlockScalar .literal
  else if c = '>' ∧ !scanner.inFlow then scanner.fetchBlockScalar .folded
  else if c = '\'' then scanner.fetchQuoted c .singleQuoted
  else if c = '"' then scanner.fetchQuoted c .doubleQuoted
  else if beginsPlain scanner.inFlow c rest then scanner.fetchPlain
  else .error (.within .scanningToken scanner.mark .noTokenStart scanner.mark)

/-- Reads the next token, and says whether it was the last. -/
def fetch (scanner : Scanner) : Except Malformed (Bool × Scanner) := do
  let scanner := scanner.skipByteOrderMark
  let scanner ← (skipSpace scanner.cursor.rest scanner).dropStale
  let scanner := scanner.closeBlocks scanner.cursor.column
  match scanner.cursor.rest with
  | [] => return (true, ← scanner.endStream)
  | c :: rest => return (false, ← scanner.fetchAt c rest)

/-- The tokens that need not wait: those before the first one that may be a key. -/
def releaseTokens (scanner : Scanner) : List Token → List Token × Scanner
  | [] => ([], { scanner with waiting := [] })
  | token :: rest =>
    let isKey (key : Option PossibleKey) := key.any fun key => key.number == scanner.released
    if (scanner.key :: scanner.outerKeys).any isKey then
      ([], { scanner with waiting := token :: rest })
    else
      let (tokens, after) := releaseTokens { scanner with released := scanner.released + 1 } rest
      (token :: tokens, after)

/-- Reads on to the end or the first fault. `budget` bounds the number of tokens that are read;
each takes a character at least, save the last. -/
def run : Nat → Scanner → TokenStream
  | 0, _ => ⟨[], none⟩
  | budget + 1, scanner =>
    match scanner.fetch with
    | .error fault => ⟨[], some fault⟩
    | .ok (ended, scanner) =>
      match scanner.dropStale with
      | .error fault => ⟨[], some fault⟩
      | .ok scanner =>
        let (tokens, scanner) := scanner.releaseTokens scanner.waiting
        if ended then ⟨tokens, none⟩
        else
          let later := run budget scanner
          ⟨tokens ++ later.tokens, later.fault⟩

end Scanner

/-- The tokens of a text. A character that no text may hold is a fault before all others. -/
def TokenStream.ofText (text : List Char) : TokenStream :=
  match firstInadmissible? 0 text with
  | some offset => ⟨[], some ⟨.controlCharacter, .offset offset, none⟩⟩
  | none => Scanner.run (text.length + 1) (.start text)

end SnapshotTypes.Yaml
