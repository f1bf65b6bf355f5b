import NodeCanvas.Catalog
import NodeCanvas.Failure
import NodeCanvas.Text.Hex

/-!
The graph of a canvas: nodes with their parameters, edges between them, and the node whose panel
is shown. An operation on an id that is not there answers `none`, and the graph stays as it is.
-/
namespace NodeCanvas

structure Position where
  x : Binary64
  y : Binary64
deriving BEq, DecidableEq

namespace Position

def origin : Position := ⟨.zero, .zero⟩

def isFinite (p : Position) : Bool := p.x.isFinite && p.y.isFinite

def fieldNames : List String := ["x", "y"]

def ofSource? (s : Source) : Option Position := do
  let f ← s.fields? fieldNames
  return { x := ← f.required? "x" Source.double?, y := ← f.required? "y" Source.double? }

def toJson (p : Position) : Json := .record [
  Json.member "x" (.double p.x),
  Json.member "y" (.double p.y)]

instance : Written Position := ⟨ofSource?, toJson⟩

end Position

/-- What the last run left on a node, for display only. -/
structure Annotations where
  response : Option String := none
  content : Option String := none
  error : Option String := none
deriving BEq, DecidableEq

namespace Annotations

def isEmpty (a : Annotations) : Bool :=
  a.response.isNone && a.content.isNone && a.error.isNone

def fieldNames : List String := ["response", "response_content", "error"]

def ofSource? (s : Source) : Option Annotations := do
  let f ← s.fields? fieldNames
  return {
    response := ← f.optional? "response" Source.text?
    content := ← f.optional? "response_content" Source.text?
    error := ← f.optional? "error" Source.text?
  }

def members (a : Annotations) : List (Option (String × Json)) := [
  Json.memberIf? "response" a.response .str,
  Json.memberIf? "response_content" a.content .str,
  Json.memberIf? "error" a.error .str]

def toJson (a : Annotations) : Json := .record a.members

instance : Written Annotations := ⟨ofSource?, toJson⟩

end Annotations

structure Node where
  id : String
  type : NodeType
  position : Position
  parameters : Parameters
  annotations : Annotations := {}
deriving DecidableEq

structure Edge where
  id : String
  source : String
  target : String
  sourceHandle : Option String := none
  targetHandle : Option String := none
deriving BEq, DecidableEq

namespace Edge

def fieldNames : List String := ["id", "source", "target", "sourceHandle", "targetHandle"]

def ofSource? (s : Source) : Option Edge := do
  let f ← s.fields? fieldNames
  return {
    id := ← f.required? "id" Source.text?
    source := ← f.required? "source" Source.text?
    target := ← f.required? "target" Source.text?
    sourceHandle := ← f.optional? "sourceHandle" Source.text?
    targetHandle := ← f.optional? "targetHandle" Source.text?
  }

def handleJson (handle : Option String) : Json := handle.elim .null .str

def toJson (e : Edge) : Json := .record [
  Json.member "id" (.str e.id),
  Json.member "source" (.str e.source),
  Json.member "target" (.str e.target),
  Json.member "sourceHandle" (handleJson e.sourceHandle),
  Json.member "targetHandle" (handleJson e.targetHandle)]

instance : Written Edge := ⟨ofSource?, toJson⟩

end Edge

/-- An edge that is to be made. -/
structure Connection where
  source : String
  target : String
  sourceHandle : Option String := none
  targetHandle : Option String := none
deriving DecidableEq

namespace Connection

def between (source sourceHandle target targetHandle : String) : Connection :=
  { source, target, sourceHandle := some sourceHandle, targetHandle := some targetHandle }

def fieldNames : List String := ["source", "target", "sourceHandle", "targetHandle"]

def ofSource? (s : Source) : Option Connection := do
  let f ← s.fields? fieldNames
  return {
    source := ← f.required? "source" Source.text?
    target := ← f.required? "target" Source.text?
    sourceHandle := ← f.optional? "sourceHandle" Source.text?
    targetHandle := ← f.optional? "targetHandle" Source.text?
  }

def toJson (c : Connection) : Json := .record [
  Json.member "source" (.str c.source),
  Json.member "target" (.str c.target),
  Json.member "sourceHandle" (Edge.handleJson c.sourceHandle),
  Json.member "targetHandle" (Edge.handleJson c.targetHandle)]

instance : Written Connection := ⟨ofSource?, toJson⟩

end Connection

/-- 128 bits that tell a new id from all others. -/
structure Token where
  bits : BitVec 128
deriving DecidableEq

namespace Token

def hex (t : Token) : String :=
  String.ofList ((List.range 32).map fun i =>
    Text.hexDigit ((t.bits.toNat >>> (4 * (31 - i))) % 16))

def byte (t : Token) (place : Nat) : Nat := (t.bits.toNat >>> (8 * (15 - place))) % 256

end Token

structure Graph where
  nodes : List Node := []
  edges : List Edge := []
  /-- The node whose panel is shown. -/
  panel : Option String := none
deriving DecidableEq

namespace Graph

def node? (g : Graph) (id : String) : Option Node := g.nodes.find? fun n => n.id == id

def edge? (g : Graph) (id : String) : Option Edge := g.edges.find? fun e => e.id == id

def hasNode (g : Graph) (id : String) : Bool := (g.node? id).isSome

def nodeIds (g : Graph) : List String := g.nodes.map (·.id)

def edgeIds (g : Graph) : List String := g.edges.map (·.id)

/-- The nodes with a new id each: of nodes with one id the first. -/
def distinctNodes (seen : List String) : List Node → List Node
  | [] => []
  | n :: rest =>
    if seen.contains n.id then distinctNodes seen rest
    else n :: distinctNodes (n.id :: seen) rest

/-- The graph of nodes and edges that need not fit together: repeated nodes and edges to missing
nodes are dropped. -/
def ofParts (nodes : List Node) (edges : List Edge) : Graph :=
  let kept := distinctNodes [] nodes
  let ids := kept.map (·.id)
  { nodes := kept
    edges := edges.filter fun e => ids.contains e.source && ids.contains e.target }

/-- New nodes are spread over 300 by 200 units, so that they do not lie on one another. -/
def startPosition (t : Token) : Position where
  x := .finite ((Double.ofRatio false (200 * 256 + 300 * t.byte 0) 256).getD .zero)
  y := .finite ((Double.ofRatio false (150 * 256 + 200 * t.byte 1) 256).getD .zero)

def add (g : Graph) (type : NodeType) (token : Token) : String × Graph :=
  let id := type.key ++ "_" ++ token.hex
  (id, { g with nodes := g.nodes ++ [{
    id, type, position := startPosition token, parameters := type.defaults }] })

def addFrom (g : Graph) (catalog : Catalog) (key : String) (token : Token) :
    Except Failure (String × Graph) :=
  match catalog.get? key with
  | some type => .ok (g.add type token)
  | none => .error (.unknownType key)

def delete? (g : Graph) (id : String) : Option Graph :=
  if g.hasNode id then
    some {
      nodes := g.nodes.eraseP fun n => n.id == id
      edges := g.edges.filter fun e => e.source != id && e.target != id
      panel := if g.panel = some id then none else g.panel }
  else none

def connect (g : Graph) (c : Connection) (token : Token) : Except Failure (String × Graph) :=
  if !g.hasNode c.source then .error (.missingEndpoint c.source)
  else if !g.hasNode c.target then .error (.missingEndpoint c.target)
  else
    let id := "edge_" ++ token.hex
    .ok (id, { g with edges := g.edges ++ [{
      id, source := c.source, target := c.target
      sourceHandle := c.sourceHandle, targetHandle := c.targetHandle }] })

/-- The graph without the edges of an id. -/
def removeEdge? (g : Graph) (id : String) : Option Graph :=
  if (g.edge? id).isSome then some { g with edges := g.edges.filter fun e => e.id != id }
  else none

/-- The first node of an id changed. -/
def changeNode (id : String) (change : Node → Node) : List Node → List Node
  | [] => []
  | n :: rest => if n.id == id then change n :: rest else n :: changeNode id change rest

def change? (g : Graph) (id : String) (change : Node → Node) : Option Graph :=
  if g.hasNode id then some { g with nodes := changeNode id change g.nodes } else none

def updateParameters? (g : Graph) (id : String) (values : Parameters) : Option Graph :=
  g.change? id fun n => { n with parameters := n.parameters.update values }

def replaceParameters? (g : Graph) (id : String) (values : Parameters) : Option Graph :=
  g.change? id fun n => { n with parameters := values }

def move? (g : Graph) (id : String) (position : Position) : Option Graph :=
  g.change? id fun n => { n with position }

def annotate? (g : Graph) (id : String) (annotations : Annotations) : Option Graph :=
  g.change? id fun n => { n with annotations }

def clearAnnotations (g : Graph) : Graph :=
  { g with nodes := g.nodes.map fun n => { n with annotations := {} } }

def openPanel? (g : Graph) (id : String) : Option Graph :=
  if g.hasNode id then some { g with panel := some id } else none

def closePanel (g : Graph) : Graph := { g with panel := none }

def isEmpty (g : Graph) : Bool := g.nodes.isEmpty

def incoming (g : Graph) (id : String) : List Edge := g.edges.filter fun e => e.target == id

def outgoing (g : Graph) (id : String) : List Edge := g.edges.filter fun e => e.source == id

/-- The nodes at the other ends of the edges into a node. -/
def dependencies (g : Graph) (id : String) : List String := (g.incoming id).map (·.source)

def dependents (g : Graph) (id : String) : List String := (g.outgoing id).map (·.target)

theorem hasNode_iff {g : Graph} {id : String} : g.hasNode id = true ↔ id ∈ g.nodeIds := by
  simp [hasNode, node?, nodeIds, List.find?_isSome]

theorem changeNode_ids (id : String) (change : Node → Node) (h : ∀ n, (change n).id = n.id)
    (nodes : List Node) : (changeNode id change nodes).map (·.id) = nodes.map (·.id) := by
  induction nodes with
  | nil => rfl
  | cons n rest ih =>
    by_cases hn : n.id == id <;> simp [changeNode, hn, h, ih]

end Graph

end NodeCanvas
