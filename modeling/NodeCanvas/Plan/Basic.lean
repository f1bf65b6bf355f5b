import NodeCanvas.Plan.Rules
import NodeCanvas.Graph.Basic

namespace NodeCanvas

structure PlanNode where
  registryKey : String
  parameters : Parameters
deriving BEq, DecidableEq

structure Endpoint where
  node : String
  port : String
deriving BEq, DecidableEq

structure PlanEdge where
  source : Endpoint
  target : Endpoint
deriving BEq, DecidableEq

structure Plan where
  nodes : Dict String PlanNode := .empty
  edges : List PlanEdge := []
deriving BEq, DecidableEq

namespace PlanNode

def fieldNames : List String := ["type", "parameters"]

def ofSource? (s : Source) : Option PlanNode := do
  let f ← s.fields? fieldNames
  return {
    registryKey := ← f.required? "type" Source.text?
    parameters := ← f.required? "parameters" (Source.dict? Source.toJson?)
  }

def toJson (n : PlanNode) : Json := .record [
  Json.member "type" (.str n.registryKey),
  Json.member "parameters" (.ofDict n.parameters)]

end PlanNode

namespace Endpoint

def ofSource? (side : String) (s : Source) : Option Endpoint := do
  let f ← s.fields? ["node", side]
  return {
    node := ← f.required? "node" Source.text?
    port := ← f.required? side Source.text?
  }

def toJson (side : String) (e : Endpoint) : Json := .record [
  Json.member "node" (.str e.node),
  Json.member side (.str e.port)]

end Endpoint

namespace PlanEdge

def fieldNames : List String := ["from", "to"]

def ofSource? (s : Source) : Option PlanEdge := do
  let f ← s.fields? fieldNames
  return {
    source := ← f.required? "from" (Endpoint.ofSource? "output")
    target := ← f.required? "to" (Endpoint.ofSource? "input")
  }

def toJson (e : PlanEdge) : Json := .record [
  Json.member "from" (e.source.toJson "output"),
  Json.member "to" (e.target.toJson "input")]

end PlanEdge

namespace Plan

def fieldNames : List String := ["nodes", "edges"]

def ofSource? (s : Source) : Option Plan := do
  let f ← s.fields? fieldNames
  return {
    nodes := ← f.required? "nodes" (Source.dict? PlanNode.ofSource?)
    edges := ← f.required? "edges" (Source.list? PlanEdge.ofSource?)
  }

def toJson (p : Plan) : Json := .record [
  Json.member "nodes" (.obj (p.nodes.entries.map fun entry => (entry.1, entry.2.toJson))),
  Json.member "edges" (.arr (p.edges.map PlanEdge.toJson))]

instance : Written Plan := ⟨ofSource?, toJson⟩

end Plan

/-- The value of a required parameter that was left blank: the fallback, else the default. -/
def Rules.resolve? (r : Rules) (registryKey : String) (p : Parameter) : Option Json :=
  (r.fallback? registryKey p.name).or (p.default?.filter fun value => value != .null)

namespace Node

/-- The values of a node with the blank ones among some required parameters resolved. -/
def resolveParameters (n : Node) (r : Rules) (values : Parameters) :
    List Parameter → Except Rejection Parameters
  | [] => .ok values
  | p :: rest =>
    if Json.isBlank (values.get? p.name) then
      match r.resolve? (r.registryKey n.type.name) p with
      | some value => n.resolveParameters r (values.insert p.name value) rest
      | none => .error (.missingParameter n.id n.type.name p.name)
    else n.resolveParameters r values rest

def toPlan (n : Node) (r : Rules) : Except Rejection PlanNode := do
  let parameters ← n.resolveParameters r n.parameters (n.type.parameters.filter (·.required))
  return { registryKey := r.registryKey n.type.name, parameters }

end Node

def Edge.toPlan (e : Edge) (r : Rules) : PlanEdge where
  source := ⟨e.source, r.outputPort e.sourceHandle⟩
  target := ⟨e.target, r.inputPort e.targetHandle⟩

namespace Plan

def nodesOf (r : Rules) (seen : Dict String PlanNode) :
    List Node → Except Rejection (Dict String PlanNode)
  | [] => .ok seen
  | n :: rest => do
    let planned ← n.toPlan r
    nodesOf r (seen.insert n.id planned) rest

/-- Whether a node has one of the categories, letters A to Z in either case. -/
def hasCategory (nodes : Dict String PlanNode) (expected : List String) : Bool :=
  nodes.values.any fun n =>
    expected.any fun category => Text.lowerAscii category == Text.lowerAscii n.registryKey

def checkCategory (nodes : Dict String PlanNode) (role : Role) (expected : List String) :
    Except Rejection Unit :=
  if expected.isEmpty || hasCategory nodes expected then .ok ()
  else .error (.missingCategory role expected)

end Plan

/-- The plan of a graph, or the first reason why there is none. -/
def Graph.plan (g : Graph) (r : Rules) : Except Rejection Plan := do
  if g.isEmpty then
    throw .emptyGraph
  let nodes ← Plan.nodesOf r .empty g.nodes
  Plan.checkCategory nodes .entry r.entryCategories
  Plan.checkCategory nodes .terminal r.terminalCategories
  return { nodes, edges := g.edges.map fun e => e.toPlan r }

end NodeCanvas
