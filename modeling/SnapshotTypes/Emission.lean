import SnapshotTypes.Text

/-!
TypeScript type declarations, free of any notion of a snapshot, and their text.
-/

set_option autoImplicit false

namespace SnapshotTypes

/-!
## Declarations
-/

/-- A type expression. `unknown` is the top type and `null` the type of the null literal alone. -/
inductive Ty where
  | boolean
  | number
  | string
  | unknown
  | null
  /-- A type known by name: a built-in one such as `Date`, or a declared record. -/
  | reference (name : String)
  | union (arms : List Ty)
deriving Repr

def Ty.nullable (ty : Ty) : Ty :=
  .union [ty, .null]

structure Member where
  name : String
  ty : Ty
deriving Repr

/-- A named record type. Members keep their order, and a repeated name is not merged. -/
structure Declaration where
  name : String
  members : List Member
deriving Repr

inductive Item where
  | record (declaration : Declaration)
  /-- A namespace that holds records only. -/
  | nested (name : String) (records : List Declaration)
deriving Repr

/-- A file of declarations, in the order in which they are written. -/
structure DeclarationFile where
  items : List Item
deriving Repr

/-- Where the records of the collections stand: beside the aggregate record, or in a namespace. -/
inductive Layout where
  | topLevel
  | nested
deriving DecidableEq, Repr

def Layout.name : Layout → String
  | topLevel => "TopLevel"
  | nested => "Namespace"

def Layout.ofUseNamespace (useNamespace : Bool) : Layout :=
  if useNamespace then .nested else .topLevel

/-!
## Text of declarations
-/

mutual

/-- Types are written on one line. A union writes its arms without brackets, so that nested unions
read as one. -/
def Ty.render : Ty → String
  | .boolean => "boolean"
  | .number => "number"
  | .string => "string"
  | .unknown => "unknown"
  | .null => "null"
  | .reference name => name
  | .union arms => " | ".intercalate (Ty.renderAll arms)

def Ty.renderAll : List Ty → List String
  | [] => []
  | ty :: rest => ty.render :: Ty.renderAll rest

end

/-- The first characters of a bare name, ASCII only. -/
def isNameStart (c : Char) : Bool :=
  c.isAlpha || c == '_' || c == '$'

/-- The later characters of a bare name, ASCII only. -/
def isNameRest (c : Char) : Bool :=
  c.isAlphanum || c == '_' || c == '$'

/-- Names that a property may have without quotes. -/
def isBareName (name : String) : Bool :=
  match name.toList with
  | [] => false
  | c :: rest => isNameStart c && rest.all isNameRest

/-- Quotes a name that could not stand bare, so that the text still parses. -/
def propertyName (name : String) : String :=
  if isBareName name then name else Text.quoted name

/-- The text written so far and the number of blocks that are open. -/
structure Emitter where
  text : String
  depth : Nat

namespace Emitter

def empty : Emitter := ⟨"", 0⟩

/-- Four blanks for each open block. -/
def indentation (depth : Nat) : String :=
  String.ofList (List.replicate (4 * depth) ' ')

def line (emitter : Emitter) (content : String) : Emitter :=
  { emitter with text := emitter.text ++ indentation emitter.depth ++ content ++ "\n" }

def block (emitter : Emitter) (body : Emitter → Emitter) : Emitter :=
  let inner := body { emitter with depth := emitter.depth + 1 }
  { inner with depth := inner.depth - 1 }

def member (emitter : Emitter) (member : Member) : Emitter :=
  emitter.line (propertyName member.name ++ ": " ++ member.ty.render ++ ";")

/-- A record without members takes one line. -/
def record (emitter : Emitter) (declaration : Declaration) : Emitter :=
  match declaration.members with
  | [] => emitter.line ("export type " ++ declaration.name ++ " = \x7b\x7d;")
  | members =>
    let opened := emitter.line ("export type " ++ declaration.name ++ " = \x7b")
    (opened.block fun inner => members.foldl Emitter.member inner).line "\x7d;"

def item (emitter : Emitter) : Item → Emitter
  | .record declaration => emitter.record declaration
  | .nested name records =>
    let opened := emitter.line ("export namespace " ++ name ++ " \x7b")
    (opened.block fun inner => records.foldl record inner).line "\x7d"

/-- Writes a file of declarations after what is already written. -/
def emit (emitter : Emitter) (file : DeclarationFile) : Emitter :=
  file.items.foldl item emitter

end Emitter

def DeclarationFile.render (file : DeclarationFile) : String :=
  (Emitter.empty.emit file).text

end SnapshotTypes
