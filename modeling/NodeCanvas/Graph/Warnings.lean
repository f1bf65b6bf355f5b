import NodeCanvas.Graph.Basic

namespace NodeCanvas

inductive Warning where
  | cycle
  | duplicateEdge (edgeId duplicateOf : String)
  | isolatedNode (nodeId : String)
deriving DecidableEq

def Warning.message : Warning → String
  | .cycle => "Cycle detected in graph"
  | .duplicateEdge edgeId duplicateOf =>
    "Edge '" ++ edgeId ++ "' duplicates edge '" ++ duplicateOf ++ "'"
  | .isolatedNode nodeId => "Node '" ++ nodeId ++ "' has no connections"

/-- Two edges between the same handles of the same nodes. -/
def Edge.parallel (e f : Edge) : Bool :=
  e.source == f.source && e.sourceHandle == f.sourceHandle && e.target == f.target
    && e.targetHandle == f.targetHandle

namespace Graph

/-- A sweep along the edges: how many edges into each node have not been crossed, the nodes
whose edges are all crossed and that wait to be visited, and those that were visited. -/
structure Sweep where
  uncrossed : Dict String Nat
  waiting : List String
  visited : List String := []

namespace Sweep

def start (g : Graph) (waiting : List String) : Sweep where
  uncrossed := .ofList (g.nodeIds.map fun id => (id, (g.incoming id).length))
  waiting

/-- Cross an edge; the last one into a node lets the node wait. -/
def cross (s : Sweep) (e : Edge) : Sweep :=
  match s.uncrossed.get? e.target with
  | none => s
  | some count =>
    { s with
      uncrossed := s.uncrossed.insert e.target (count - 1)
      waiting := if count - 1 = 0 then s.waiting ++ [e.target] else s.waiting }

/-- Visit the node that has waited longest and cross the edges out of it. -/
def visit (g : Graph) (s : Sweep) : Sweep :=
  match s.waiting with
  | [] => s
  | id :: rest =>
    (g.outgoing id).foldl cross { s with waiting := rest, visited := s.visited ++ [id] }

def run (g : Graph) : Nat → Sweep → Sweep
  | 0, s => s
  | rounds + 1, s => run g rounds (visit g s)

end Sweep

def roots (g : Graph) : List String := g.nodeIds.filter fun id => (g.incoming id).isEmpty

/-- Some node is never visited: as many visits as there are nodes are enough for all. -/
def hasCycle (g : Graph) (order : List String) : Bool :=
  (Sweep.run g g.nodes.length (Sweep.start g order)).visited.length < g.nodes.length

/-- The edges that repeat one before them, with the first one that they repeat. -/
def duplicates (before : List Edge) : List Edge → List Warning
  | [] => []
  | e :: rest =>
    match before.find? fun f => e.parallel f with
    | some first => .duplicateEdge e.id first.id :: duplicates before rest
    | none => duplicates (before ++ [e]) rest

def isolated (g : Graph) : List Warning :=
  if g.nodes.length > 1 then
    (g.nodeIds.filter fun id => !g.edges.any fun e => e.source == id || e.target == id).map
      .isolatedNode
  else []

/-- A cycle first, then repeated edges in their order, then isolated nodes in theirs. -/
def warningsFrom (g : Graph) (order : List String) : List Warning :=
  (if g.hasCycle order then [.cycle] else []) ++ duplicates [] g.edges ++ g.isolated

def warnings (g : Graph) : List Warning := g.warningsFrom g.roots

end Graph

end NodeCanvas
