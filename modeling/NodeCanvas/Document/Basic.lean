import NodeCanvas.Graph.Basic
import NodeCanvas.Document.Calendar
import NodeCanvas.Json.Printer

namespace NodeCanvas

/-- A node as documents hold it. -/
structure SavedNode where
  id : String
  kind : String
  position : Position
  type : NodeType
  parameters : Parameters
  annotations : Annotations
deriving BEq, DecidableEq

namespace SavedNode

/-- The kind of all nodes that are written. -/
def customKind : String := "custom"

def ofNode (n : Node) : SavedNode where
  id := n.id
  kind := customKind
  position := n.position
  type := n.type
  parameters := n.parameters
  annotations := n.annotations

def toNode (s : SavedNode) : Node where
  id := s.id
  type := s.type
  position := s.position
  parameters := s.parameters
  annotations := s.annotations

def fieldNames : List String := ["id", "type", "position", "data"]

def contentNames : List String :=
  ["nodeSchema", "parameters", "response", "response_content", "error"]

def ofSource? (s : Source) : Option SavedNode := do
  let f ← s.fields? fieldNames
  let content ← f.required? "data" (Source.fields? contentNames)
  return {
    id := ← f.required? "id" Source.text?
    kind := ← f.given? "type" customKind Source.text?
    position := ← f.given? "position" .origin Position.ofSource?
    type := ← content.required? "nodeSchema" NodeType.ofSource?
    parameters := ← content.given? "parameters" .empty (Source.dict? Source.toJson?)
    annotations := {
      response := ← content.optional? "response" Source.text?
      content := ← content.optional? "response_content" Source.text?
      error := ← content.optional? "error" Source.text? }
  }

def contentJson (s : SavedNode) : Json := .record ([
  Json.member "nodeSchema" s.type.toJson,
  Json.member "parameters" (.ofDict s.parameters)] ++ s.annotations.members)

def toJson (s : SavedNode) : Json := .record [
  Json.member "id" (.str s.id),
  Json.member "type" (.str s.kind),
  Json.member "position" s.position.toJson,
  Json.member "data" s.contentJson]

instance : Written SavedNode := ⟨ofSource?, toJson⟩

end SavedNode

/-- The nodes and edges of a document, which need not fit together. -/
structure GraphData where
  nodes : List SavedNode := []
  edges : List Edge := []
deriving BEq, DecidableEq

namespace GraphData

def ofGraph (g : Graph) : GraphData where
  nodes := g.nodes.map .ofNode
  edges := g.edges

/-- The first of the types with the key that is equal to a type, else the type itself. -/
def shareType (seen : List NodeType) (t : NodeType) : NodeType :=
  (seen.find? fun s => s.key == t.key && s == t).getD t

/-- Nodes with equal types get one type, the first of them. -/
def shareTypes (seen : List NodeType) : List Node → List Node
  | [] => []
  | n :: rest =>
    let type := shareType seen n.type
    { n with type } :: shareTypes (seen ++ [type]) rest

def toGraph (d : GraphData) : Graph :=
  .ofParts (shareTypes [] (d.nodes.map SavedNode.toNode)) d.edges

def fieldNames : List String := ["nodes", "edges"]

def ofSource? (s : Source) : Option GraphData := do
  let f ← s.fields? fieldNames
  return {
    nodes := ← f.given? "nodes" [] (Source.list? SavedNode.ofSource?)
    edges := ← f.given? "edges" [] (Source.list? Edge.ofSource?)
  }

def members (d : GraphData) : List (Option (String × Json)) := [
  Json.member "nodes" (.arr (d.nodes.map SavedNode.toJson)),
  Json.member "edges" (.arr (d.edges.map Edge.toJson))]

def toJson (d : GraphData) : Json := .record d.members

instance : Written GraphData := ⟨ofSource?, toJson⟩

end GraphData

structure Document where
  data : GraphData := {}
  timestamp : String := ""
  name : String := ""
deriving BEq, DecidableEq

namespace Document

def defaultName (now : Instant) : String :=
  "Workflow_" ++ now.dateText ++ "_" ++ toString now.millis

def ofGraph (g : Graph) (name : Option String) (now : Instant) : Document where
  data := .ofGraph g
  timestamp := now.timestamp
  name := name.getD (defaultName now)

def toGraph (d : Document) : Graph := d.data.toGraph

def fieldNames : List String := ["nodes", "edges", "timestamp", "name"]

def ofSource? (s : Source) : Option Document := do
  let f ← s.fields? fieldNames
  return {
    data := {
      nodes := ← f.given? "nodes" [] (Source.list? SavedNode.ofSource?)
      edges := ← f.given? "edges" [] (Source.list? Edge.ofSource?) }
    timestamp := ← f.given? "timestamp" "" Source.text?
    name := ← f.given? "name" "" Source.text?
  }

def toJson (d : Document) : Json := .record (d.data.members ++ [
  Json.member "timestamp" (.str d.timestamp),
  Json.member "name" (.str d.name)])

def ofText? (text : String) : Option Document := (Source.ofText? text).bind ofSource?

def toText (d : Document) : String := d.toJson.pretty

instance : Written Document := ⟨ofSource?, toJson⟩

end Document

end NodeCanvas
