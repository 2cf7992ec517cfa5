import SnapshotTypes.Yaml.Event
import SnapshotTypes.Yaml.Scanning

/-!
A document as a list of nodes, with aliases resolved to the places they stand for.
-/

set_option autoImplicit false

namespace SnapshotTypes.Yaml

inductive Node where
  /-- An alias, by the number of the anchor it names. -/
  | aliased (anchor : Nat)
  | scalar (tag : Option (List Char)) (text : List Char) (style : ScalarStyle)
  | sequenceStart
  | sequenceEnd
  | mappingStart
  | mappingEnd
  /-- Stands for a stream without any document. -/
  | absent
deriving DecidableEq, Repr

/-- Why a document cannot be read to its end. -/
inductive Defect where
  | malformed (fault : Malformed)
  | unknownAnchor (mark : Mark)
  /-- More documents follow, or what follows cannot be read. -/
  | moreDocuments
deriving DecidableEq, Repr

def Defect.message : Defect → String
  | .malformed fault => fault.message
  | .unknownAnchor mark => "unknown anchor" ++ mark.suffix
  | .moreDocuments =>
    "deserializing from YAML containing more than one document is not supported"

/-- The nodes of a document as far as it can be read, in the order of their beginnings, and the
number of the node that each anchor marks. -/
structure NodeStream where
  nodes : List (Node × Mark)
  anchors : List (Nat × Nat)
  defect : Option Defect

structure Anchors where
  /-- The anchor that a name stands for at present. -/
  byName : List (List Char × Nat)
  names : Nat
  /-- The nodes that the anchors mark, the latest first. -/
  marked : List (Nat × Nat)

namespace Anchors

def none : Anchors := ⟨[], 0, []⟩

/-- Notes that a name marks a node. An anchor is numbered by the names before it, its own included
if that was seen already. -/
def note (anchors : Anchors) (node : Nat) : Option (List Char) → Anchors
  | .none => anchors
  | some name =>
    let number := anchors.names
    let names := if (anchors.byName.lookup name).isSome then number else number + 1
    ⟨(name, number) :: anchors.byName, names, (number, node) :: anchors.marked⟩

end Anchors

/-- Collects the nodes of the first document. `position` is the number of the next node, and
`fault` what the events end with. -/
def collectNodes (fault : Option Malformed) :
    Anchors → Nat → List (Event × Mark) → NodeStream
  | anchors, _, [] => ⟨[], anchors.marked, fault.map .malformed⟩
  | anchors, position, (event, mark) :: rest =>
    let add (anchors : Anchors) (node : Node) : NodeStream :=
      let later := collectNodes fault anchors (position + 1) rest
      { later with nodes := (node, mark) :: later.nodes }
    match event with
    | .documentStart => collectNodes fault anchors position rest
    | .documentEnd =>
      let defect := match rest with
        | (.streamEnd, _) :: _ => none
        | _ => some .moreDocuments
      ⟨[], anchors.marked, defect⟩
    | .streamEnd => ⟨if position = 0 then [(.absent, mark)] else [], anchors.marked, none⟩
    | .aliased name =>
      match anchors.byName.lookup name with
      | none => ⟨[], anchors.marked, some (.unknownAnchor mark)⟩
      | some anchor => add anchors (.aliased anchor)
    | .scalar anchor tag text style => add (anchors.note position anchor) (.scalar tag text style)
    | .sequenceStart anchor => add (anchors.note position anchor) .sequenceStart
    | .sequenceEnd => add anchors .sequenceEnd
    | .mappingStart anchor => add (anchors.note position anchor) .mappingStart
    | .mappingEnd => add anchors .mappingEnd

def NodeStream.ofEvents (stream : EventStream) : NodeStream :=
  collectNodes stream.fault .none 0 stream.events

def NodeStream.ofText (text : List Char) : NodeStream :=
  .ofEvents (.ofTokens (.ofText text))

/-- The nodes from the one that an anchor marks. An anchor of that number that comes later in the
document takes precedence. -/
def NodeStream.nodesFrom (document : NodeStream) (anchor : Nat) : List (Node × Mark) :=
  match document.anchors.lookup anchor with
  | none => []
  | some position => document.nodes.drop position

end SnapshotTypes.Yaml
