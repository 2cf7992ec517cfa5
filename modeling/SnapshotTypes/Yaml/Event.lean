import SnapshotTypes.Yaml.Token

/-!
From tokens to events: the nodes of the documents of a text in the order of their beginnings, with
the ends of collections. Places where YAML allows a node to be left out become empty plain scalars.
-/

set_option autoImplicit false

namespace SnapshotTypes.Yaml

inductive Event where
  | streamEnd
  | documentStart
  | documentEnd
  | aliased (name : List Char)
  | scalar (anchor : Option (List Char)) (tag : Option (List Char)) (text : List Char)
    (style : ScalarStyle)
  | sequenceStart (anchor : Option (List Char))
  | sequenceEnd
  | mappingStart (anchor : Option (List Char))
  | mappingEnd
deriving DecidableEq, Repr

/-- The events of a text up to the first fault of it, if there is one. -/
structure EventStream where
  events : List (Event × Mark)
  fault : Option Malformed

/-- What is read next. Collections remember where they began. -/
inductive Goal where
  | firstDocument
  | nextDocument
  | documentContent
  | documentEnd
  | blockNode
  | blockSequenceEntry (start : Mark)
  | indentlessEntry
  | blockMappingKey (start : Mark)
  | blockMappingValue (start : Mark)
  | flowSequenceEntry (start : Mark) (first : Bool)
  | flowPairKey
  | flowPairValue
  | flowPairEnd
  | flowMappingKey (start : Mark) (first : Bool)
  | flowMappingValue (start : Mark)
  | flowMappingNoValue (start : Mark)
  | nothing
deriving DecidableEq, Repr

/-- Between two events: what is read next and what after it, the tokens that are left, and the
texts that the tag handles of the document stand for. -/
structure Parsing where
  goal : Goal
  later : List Goal
  tokens : List Token
  handles : List (List Char × List Char)

/-- Why no event follows: the tokens are at an end, or they make no sense. -/
inductive Halt where
  | exhausted
  | malformed (fault : Malformed)

abbrev Parsed := Except Halt ((Event × Mark) × Parsing)

namespace Parsing

def peek (parsing : Parsing) : Except Halt Token :=
  match parsing.tokens with
  | [] => .error .exhausted
  | token :: _ => .ok token

def drop (parsing : Parsing) : Parsing :=
  { parsing with tokens := parsing.tokens.drop 1 }

/-- Goes on with what was put off last. -/
def resume (parsing : Parsing) : Parsing :=
  match parsing.later with
  | [] => { parsing with goal := .nothing }
  | goal :: later => { parsing with goal := goal, later := later }

/-- Puts off a goal until the node that is read next is complete. -/
def putOff (parsing : Parsing) (goal : Goal) : Parsing :=
  { parsing with later := goal :: parsing.later }

def toward (parsing : Parsing) (goal : Goal) : Parsing :=
  { parsing with goal := goal }

/-- A node that was left out, and the goal after it. -/
def emptyNode (parsing : Parsing) (mark : Mark) : Parsed :=
  .ok ((.scalar none none [] .plain, mark), parsing)

def malformed (problem : Problem) (mark : Mark) : Parsed :=
  .error (.malformed (.plain problem mark))

def malformedWithin (context : Context) (start : Mark) (problem : Problem) (mark : Mark) :
    Parsed :=
  .error (.malformed (.within context start problem mark))

/-- The anchor and the tag before a node, where the tag began, and the token after them. -/
structure Properties where
  anchor : Option (List Char)
  tag : Option (List Char × List Char × Mark)
  token : Token
  rest : Parsing

/-- Reads an anchor and a tag in either order, each at most once. -/
def readProperties (parsing : Parsing) : Except Halt Properties := do
  let first ← parsing.peek
  match first.kind with
  | .anchor name =>
    let second ← parsing.drop.peek
    match second.kind with
    | .tag handle suffix =>
      let token ← parsing.drop.drop.peek
      .ok ⟨some name, some (handle, suffix, second.start), token, parsing.drop.drop⟩
    | _ => .ok ⟨some name, none, second, parsing.drop⟩
  | .tag handle suffix =>
    let second ← parsing.drop.peek
    match second.kind with
    | .anchor name =>
      let token ← parsing.drop.drop.peek
      .ok ⟨some name, some (handle, suffix, first.start), token, parsing.drop.drop⟩
    | _ => .ok ⟨none, some (handle, suffix, first.start), second, parsing.drop⟩
  | _ => .ok ⟨none, none, first, parsing⟩

/-- The part of a text before a null character. -/
def beforeNull (text : List Char) : List Char :=
  text.takeWhile (· ≠ '\x00')

/-- The whole tag that a handle and a suffix stand for. An empty handle stands for itself. -/
def expandTag (handles : List (List Char × List Char)) (start : Mark) :
    Option (List Char × List Char × Mark) → Except Halt (Option (List Char))
  | none => .ok none
  | some (handle, suffix, mark) =>
    if handle = [] then .ok (some (beforeNull suffix))
    else
      match handles.lookup handle with
      | none => .error (.malformed (.within .parsingNode start .undefinedHandle mark))
      | some expansion => .ok (some (beforeNull (beforeNull expansion ++ beforeNull suffix)))

/-- Reads a node. Block collections may begin only where `block` holds, and sequences without
indentation of their own only as values of a mapping. -/
def readNode (block indentless : Bool) (parsing : Parsing) : Parsed := do
  let first ← parsing.peek
  match first.kind with
  | .aliased name => .ok ((.aliased name, first.start), parsing.drop.resume)
  | _ =>
    let properties ← parsing.readProperties
    let tag ← expandTag parsing.handles first.start properties.tag
    let anchor := properties.anchor
    let token := properties.token
    let rest := properties.rest
    let sequence (next : Parsing) : Parsed := .ok ((.sequenceStart anchor, first.start), next)
    let mapping (next : Parsing) : Parsed := .ok ((.mappingStart anchor, first.start), next)
    let absent : Parsed :=
      if anchor.isSome || tag.isSome then
        .ok ((.scalar anchor tag [] .plain, first.start), rest.resume)
      else
        malformedWithin (if block then .parsingBlockNode else .parsingFlowNode) first.start
          .noContent token.start
    match token.kind with
    | .scalar text style =>
      let tag := tag.filter (· ≠ ['!'])
      .ok ((.scalar anchor tag text style, first.start), rest.drop.resume)
    | .blockEntry => if indentless then sequence (rest.toward .indentlessEntry) else absent
    | .flowSequenceStart => sequence (rest.drop.toward (.flowSequenceEntry token.start true))
    | .flowMappingStart => mapping (rest.drop.toward (.flowMappingKey token.start true))
    | .blockSequenceStart =>
      if block then sequence (rest.drop.toward (.blockSequenceEntry token.start)) else absent
    | .blockMappingStart =>
      if block then mapping (rest.drop.toward (.blockMappingKey token.start)) else absent
    | _ => absent

/-- The handles of every document. -/
def defaultHandles : List (List Char × List Char) :=
  [(['!'], ['!']), (['!', '!'], "tag:yaml.org,2002:".toList)]

/-- Reads the directives before a document. The handles of a directive take the place of the
default ones. -/
def readDirectives : List Token → Bool → List (List Char × List Char) →
    Except Halt (List Token × List (List Char × List Char))
  | [], _, _ => .error .exhausted
  | token :: rest, versionSeen, handles =>
    match token.kind with
    | .versionDirective major minor =>
      if versionSeen then .error (.malformed (.plain .duplicateVersion token.start))
      else if major ≠ 1 ∨ (minor ≠ 1 ∧ minor ≠ 2) then
        .error (.malformed (.plain .incompatibleVersion token.start))
      else readDirectives rest true handles
    | .tagDirective handle expansion =>
      if (handles.lookup handle).isSome then
        .error (.malformed (.plain .duplicateTagDirective token.start))
      else readDirectives rest versionSeen ((handle, expansion) :: handles)
    | _ => .ok (token :: rest, handles ++ defaultHandles)

/-- Reads the beginning of a document after its directives, or the end of the stream. -/
def readExplicitDocument (parsing : Parsing) : Parsed := do
  let first ← parsing.peek
  if first.kind = .streamEnd then
    .ok ((.streamEnd, first.start), parsing.drop.toward .nothing)
  else
    let (tokens, handles) ← readDirectives parsing.tokens false []
    let parsing := { parsing with tokens := tokens, handles := handles }
    let token ← parsing.peek
    if token.kind ≠ .documentStart then malformed .noDocumentStart token.start
    else
      .ok ((.documentStart, first.start),
        (parsing.drop.putOff .documentEnd).toward .documentContent)

/-- Whether a token begins a document that is marked as such, or ends the stream. -/
def beginsExplicitly : TokenKind → Bool
  | .versionDirective _ _ | .tagDirective _ _ | .documentStart | .streamEnd => true
  | _ => false

def readFirstDocument (parsing : Parsing) : Parsed := do
  let token ← parsing.peek
  if beginsExplicitly token.kind then parsing.readExplicitDocument
  else
    let parsing := { parsing with handles := defaultHandles }
    .ok ((.documentStart, token.start), (parsing.putOff .documentEnd).toward .blockNode)

/-- Later documents have to be marked; ends of documents before them do not count. -/
def readNextDocument (parsing : Parsing) : Parsed :=
  { parsing with
    tokens := parsing.tokens.dropWhile fun token : Token => token.kind = TokenKind.documentEnd
  }.readExplicitDocument

def readDocumentContent (parsing : Parsing) : Parsed := do
  let token ← parsing.peek
  match token.kind with
  | .versionDirective _ _ | .tagDirective _ _ | .documentStart | .documentEnd | .streamEnd =>
    parsing.resume.emptyNode token.start
  | _ => parsing.readNode true false

def readDocumentEnd (parsing : Parsing) : Parsed := do
  let token ← parsing.peek
  let next := if token.kind = .documentEnd then parsing.drop else parsing
  .ok ((.documentEnd, token.start), { next with handles := [], goal := .nextDocument })

def readBlockSequenceEntry (start : Mark) (parsing : Parsing) : Parsed := do
  let token ← parsing.peek
  match token.kind with
  | .blockEntry =>
    let after := parsing.drop
    let next ← after.peek
    match next.kind with
    | .blockEntry | .blockEnd => after.emptyNode token.stop
    | _ => (after.putOff (.blockSequenceEntry start)).readNode true false
  | .blockEnd => .ok ((.sequenceEnd, token.start), parsing.drop.resume)
  | _ => malformedWithin .parsingBlockCollection start .noDash token.start

def readIndentlessEntry (parsing : Parsing) : Parsed := do
  let token ← parsing.peek
  match token.kind with
  | .blockEntry =>
    let after := parsing.drop
    let next ← after.peek
    match next.kind with
    | .blockEntry | .key | .value | .blockEnd => after.emptyNode token.stop
    | _ => (after.putOff .indentlessEntry).readNode true false
  | _ => .ok ((.sequenceEnd, token.start), parsing.resume)

/-- Reads a node of a block mapping after the token at `stop`, where it may be left out. -/
def readMappingNode (stop : Mark) (goal : Goal) (parsing : Parsing) : Parsed := do
  let next ← parsing.peek
  match next.kind with
  | .key | .value | .blockEnd => (parsing.toward goal).emptyNode stop
  | _ => (parsing.putOff goal).readNode true true

def readBlockMappingKey (start : Mark) (parsing : Parsing) : Parsed := do
  let token ← parsing.peek
  match token.kind with
  | .key => parsing.drop.readMappingNode token.stop (.blockMappingValue start)
  | .blockEnd => .ok ((.mappingEnd, token.start), parsing.drop.resume)
  | _ => malformedWithin .parsingBlockMapping start .noKey token.start

def readBlockMappingValue (start : Mark) (parsing : Parsing) : Parsed := do
  let token ← parsing.peek
  match token.kind with
  | .value => parsing.drop.readMappingNode token.stop (.blockMappingKey start)
  | _ => (parsing.toward (.blockMappingKey start)).emptyNode token.start

/-- Reads an entry of a flow sequence from its first token on. A key makes it a mapping of a single
pair. -/
def readFlowSequenceItem (start : Mark) (parsing : Parsing) : Parsed := do
  let token ← parsing.peek
  match token.kind with
  | .key =>
    .ok ((.mappingStart none, token.start),
      (parsing.drop.putOff (.flowSequenceEntry start false)).toward .flowPairKey)
  | .flowSequenceEnd => .ok ((.sequenceEnd, token.start), parsing.drop.resume)
  | _ => (parsing.putOff (.flowSequenceEntry start false)).readNode false false

def readFlowSequenceEntry (start : Mark) (first : Bool) (parsing : Parsing) : Parsed := do
  let token ← parsing.peek
  match token.kind with
  | .flowSequenceEnd => .ok ((.sequenceEnd, token.start), parsing.drop.resume)
  | kind =>
    if first then parsing.readFlowSequenceItem start
    else if kind = .flowEntry then parsing.drop.readFlowSequenceItem start
    else malformedWithin .parsingFlowSequence start .noCommaOrBracket token.start

/-- A token that cannot begin the key of a single pair is passed over. -/
def readFlowPairKey (parsing : Parsing) : Parsed := do
  let token ← parsing.peek
  match token.kind with
  | .value | .flowEntry | .flowSequenceEnd =>
    (parsing.drop.toward .flowPairValue).emptyNode token.stop
  | _ => (parsing.putOff .flowPairValue).readNode false false

def readFlowPairValue (parsing : Parsing) : Parsed := do
  let token ← parsing.peek
  match token.kind with
  | .value =>
    let after := parsing.drop
    let next ← after.peek
    match next.kind with
    | .flowEntry | .flowSequenceEnd => (after.toward .flowPairEnd).emptyNode next.start
    | _ => (after.putOff .flowPairEnd).readNode false false
  | _ => (parsing.toward .flowPairEnd).emptyNode token.start

def readFlowPairEnd (parsing : Parsing) : Parsed := do
  let token ← parsing.peek
  .ok ((.mappingEnd, token.start), parsing.resume)

/-- Reads a key of a flow mapping from its first token on. Without the token of a key it stands
for itself, with no value. -/
def readFlowMappingItem (start : Mark) (parsing : Parsing) : Parsed := do
  let token ← parsing.peek
  match token.kind with
  | .key =>
    let after := parsing.drop
    let next ← after.peek
    match next.kind with
    | .value | .flowEntry | .flowMappingEnd =>
      (after.toward (.flowMappingValue start)).emptyNode next.start
    | _ => (after.putOff (.flowMappingValue start)).readNode false false
  | .flowMappingEnd => .ok ((.mappingEnd, token.start), parsing.drop.resume)
  | _ => (parsing.putOff (.flowMappingNoValue start)).readNode false false

def readFlowMappingKey (start : Mark) (first : Bool) (parsing : Parsing) : Parsed := do
  let token ← parsing.peek
  match token.kind with
  | .flowMappingEnd => .ok ((.mappingEnd, token.start), parsing.drop.resume)
  | kind =>
    if first then parsing.readFlowMappingItem start
    else if kind = .flowEntry then parsing.drop.readFlowMappingItem start
    else malformedWithin .parsingFlowMapping start .noCommaOrBrace token.start

def readFlowMappingValue (start : Mark) (parsing : Parsing) : Parsed := do
  let token ← parsing.peek
  let goal := Goal.flowMappingKey start false
  match token.kind with
  | .value =>
    let after := parsing.drop
    let next ← after.peek
    match next.kind with
    | .flowEntry | .flowMappingEnd => (after.toward goal).emptyNode next.start
    | _ => (after.putOff goal).readNode false false
  | _ => (parsing.toward goal).emptyNode token.start

def readFlowMappingNoValue (start : Mark) (parsing : Parsing) : Parsed := do
  let token ← parsing.peek
  (parsing.toward (.flowMappingKey start false)).emptyNode token.start

def next (parsing : Parsing) : Parsed :=
  match parsing.goal with
  | .firstDocument => parsing.readFirstDocument
  | .nextDocument => parsing.readNextDocument
  | .documentContent => parsing.readDocumentContent
  | .documentEnd => parsing.readDocumentEnd
  | .blockNode => parsing.readNode true false
  | .blockSequenceEntry start => parsing.readBlockSequenceEntry start
  | .indentlessEntry => parsing.readIndentlessEntry
  | .blockMappingKey start => parsing.readBlockMappingKey start
  | .blockMappingValue start => parsing.readBlockMappingValue start
  | .flowSequenceEntry start first => parsing.readFlowSequenceEntry start first
  | .flowPairKey => parsing.readFlowPairKey
  | .flowPairValue => parsing.readFlowPairValue
  | .flowPairEnd => parsing.readFlowPairEnd
  | .flowMappingKey start first => parsing.readFlowMappingKey start first
  | .flowMappingValue start => parsing.readFlowMappingValue start
  | .flowMappingNoValue start => parsing.readFlowMappingNoValue start
  | .nothing => .error .exhausted

/-- Reads events up to the end of the stream. `fault` is what the tokens end with, and `budget`
bounds the number of events. -/
def run (fault : Option Malformed) : Nat → Parsing → EventStream
  | 0, _ => ⟨[], fault⟩
  | budget + 1, parsing =>
    match parsing.next with
    | .error .exhausted => ⟨[], fault⟩
    | .error (.malformed fault) => ⟨[], some fault⟩
    | .ok (event, next) =>
      let later := run fault budget next
      ⟨event :: later.events, later.fault⟩

end Parsing

/-- The events of a text. A token gives rise to few events, the most of them for nodes that are
left out, so that eight for each are enough. -/
def EventStream.ofTokens (stream : TokenStream) : EventStream :=
  Parsing.run stream.fault (8 * (stream.tokens.length + 1))
    { goal := .firstDocument, later := [], tokens := stream.tokens, handles := [] }

end SnapshotTypes.Yaml
