import SnapshotTypes.Yaml.Cursor

/-!
Tokens of YAML, and the faults that end them.
-/

set_option autoImplicit false

namespace SnapshotTypes.Yaml

/-!
## Faults
-/

inductive Problem where
  | controlCharacter
  | noTokenStart
  | noColon
  | entryNotAllowed
  | keyNotAllowed
  | valueNotAllowed
  | unknownDirective
  | noCommentOrBreak
  | noDirectiveName
  | nonAlphabetical
  | longVersion
  | noVersion
  | noVersionPoint
  | noWhitespace
  | noWhitespaceOrBreak
  | noName
  | noTagClose
  | noTagMark
  | noTagUri
  | noOctet
  | badLeadingOctet
  | badTrailingOctet
  | zeroIndentation
  | tabInIndentation
  | documentIndicator
  | endOfStream
  | unknownEscape
  | noHexNumber
  | badEscapeCode
  | unexpectedColon
  | tabViolatesIndentation
  | noDocumentStart
  | undefinedHandle
  | noContent
  | noDash
  | noKey
  | noCommaOrBracket
  | noCommaOrBrace
  | duplicateVersion
  | incompatibleVersion
  | duplicateTagDirective
deriving DecidableEq, Repr

def Problem.message : Problem → String
  | controlCharacter => "control characters are not allowed"
  | noTokenStart => "found character that cannot start any token"
  | noColon => "could not find expected ':'"
  | entryNotAllowed => "block sequence entries are not allowed in this context"
  | keyNotAllowed => "mapping keys are not allowed in this context"
  | valueNotAllowed => "mapping values are not allowed in this context"
  | unknownDirective => "found unknown directive name"
  | noCommentOrBreak => "did not find expected comment or line break"
  | noDirectiveName => "could not find expected directive name"
  | nonAlphabetical => "found unexpected non-alphabetical character"
  | longVersion => "found extremely long version number"
  | noVersion => "did not find expected version number"
  | noVersionPoint => "did not find expected digit or '.' character"
  | noWhitespace => "did not find expected whitespace"
  | noWhitespaceOrBreak => "did not find expected whitespace or line break"
  | noName => "did not find expected alphabetic or numeric character"
  | noTagClose => "did not find the expected '>'"
  | noTagMark => "did not find expected '!'"
  | noTagUri => "did not find expected tag URI"
  | noOctet => "did not find URI escaped octet"
  | badLeadingOctet => "found an incorrect leading UTF-8 octet"
  | badTrailingOctet => "found an incorrect trailing UTF-8 octet"
  | zeroIndentation => "found an indentation indicator equal to 0"
  | tabInIndentation => "found a tab character where an indentation space is expected"
  | documentIndicator => "found unexpected document indicator"
  | endOfStream => "found unexpected end of stream"
  | unknownEscape => "found unknown escape character"
  | noHexNumber => "did not find expected hexadecimal number"
  | badEscapeCode => "found invalid Unicode character escape code"
  | unexpectedColon => "found unexpected ':'"
  | tabViolatesIndentation => "found a tab character that violates indentation"
  | noDocumentStart => "did not find expected <document start>"
  | undefinedHandle => "found undefined tag handle"
  | noContent => "did not find expected node content"
  | noDash => "did not find expected '-' indicator"
  | noKey => "did not find expected key"
  | noCommaOrBracket => "did not find expected ',' or ']'"
  | noCommaOrBrace => "did not find expected ',' or '\x7d'"
  | duplicateVersion => "found duplicate %YAML directive"
  | incompatibleVersion => "found incompatible YAML document"
  | duplicateTagDirective => "found duplicate %TAG directive"

/-- What was being read when the problem was met. -/
inductive Context where
  | scanningToken
  | scanningKey
  | scanningDirective
  | scanningVersion
  | scanningTagDirective
  | scanningTagHandle
  | parsingTagHandle
  | parsingTagDirective
  | scanningTag
  | parsingTag
  | scanningAnchor
  | scanningAlias
  | scanningBlockScalar
  | scanningQuotedScalar
  | parsingQuotedScalar
  | scanningPlainScalar
  | parsingNode
  | parsingBlockNode
  | parsingFlowNode
  | parsingBlockCollection
  | parsingBlockMapping
  | parsingFlowSequence
  | parsingFlowMapping
deriving DecidableEq, Repr

def Context.message : Context → String
  | scanningToken => "while scanning for the next token"
  | scanningKey => "while scanning a simple key"
  | scanningDirective => "while scanning a directive"
  | scanningVersion => "while scanning a %YAML directive"
  | scanningTagDirective => "while scanning a %TAG directive"
  | scanningTagHandle => "while scanning a tag directive"
  | parsingTagHandle => "while parsing a tag directive"
  | parsingTagDirective => "while parsing a %TAG directive"
  | scanningTag => "while scanning a tag"
  | parsingTag => "while parsing a tag"
  | scanningAnchor => "while scanning an anchor"
  | scanningAlias => "while scanning an alias"
  | scanningBlockScalar => "while scanning a block scalar"
  | scanningQuotedScalar => "while scanning a quoted scalar"
  | parsingQuotedScalar => "while parsing a quoted scalar"
  | scanningPlainScalar => "while scanning a plain scalar"
  | parsingNode => "while parsing a node"
  | parsingBlockNode => "while parsing a block node"
  | parsingFlowNode => "while parsing a flow node"
  | parsingBlockCollection => "while parsing a block collection"
  | parsingBlockMapping => "while parsing a block mapping"
  | parsingFlowSequence => "while parsing a flow sequence"
  | parsingFlowMapping => "while parsing a flow mapping"

inductive Place where
  | mark (mark : Mark)
  /-- A number of bytes from the start of the text. -/
  | offset (bytes : Nat)
deriving DecidableEq, Repr

structure Malformed where
  problem : Problem
  place : Place
  context : Option (Context × Mark)
deriving DecidableEq, Repr

def Malformed.within (context : Context) (start : Mark) (problem : Problem) (mark : Mark) :
    Malformed :=
  ⟨problem, .mark mark, some (context, start)⟩

def Malformed.plain (problem : Problem) (mark : Mark) : Malformed :=
  ⟨problem, .mark mark, none⟩

/-- Whether a mark is at the start of the text, which complaints leave unsaid. -/
def Mark.isStart (mark : Mark) : Bool :=
  mark.line == 0 && mark.column == 0

/-- The place for readers, who count from one. The start of the text is not worth naming. -/
def Mark.suffix (mark : Mark) : String :=
  if mark.isStart then ""
  else " at line " ++ toString (mark.line + 1) ++ " column " ++ toString (mark.column + 1)

def Place.suffix : Place → String
  | .mark place => place.suffix
  | .offset bytes => if bytes = 0 then "" else " at position " ++ toString bytes

def Place.agrees (place : Place) (mark : Mark) : Bool :=
  match place with
  | .mark other => other.line == mark.line && other.column == mark.column
  | .offset _ => false

/-- The start of what was being read is named only if it differs from the place of the problem. -/
def Malformed.message (fault : Malformed) : String :=
  fault.problem.message ++ fault.place.suffix ++
    match fault.context with
    | none => ""
    | some (context, start) =>
      ", " ++ context.message ++ if fault.place.agrees start then "" else start.suffix

/-!
## Tokens
-/

inductive ScalarStyle where
  | plain
  | singleQuoted
  | doubleQuoted
  | literal
  | folded
deriving DecidableEq, Repr

inductive TokenKind where
  | streamEnd
  | versionDirective (major minor : Nat)
  | tagDirective (handle expansion : List Char)
  | documentStart
  | documentEnd
  | blockSequenceStart
  | blockMappingStart
  | blockEnd
  | flowSequenceStart
  | flowSequenceEnd
  | flowMappingStart
  | flowMappingEnd
  | blockEntry
  | flowEntry
  | key
  | value
  | anchor (name : List Char)
  | aliased (name : List Char)
  | tag (handle suffix : List Char)
  | scalar (text : List Char) (style : ScalarStyle)
deriving DecidableEq, Repr

structure Token where
  kind : TokenKind
  start : Mark
  stop : Mark
deriving DecidableEq, Repr

/-- The tokens of a text up to the first fault of it, if there is one. -/
structure TokenStream where
  tokens : List Token
  fault : Option Malformed

end SnapshotTypes.Yaml
