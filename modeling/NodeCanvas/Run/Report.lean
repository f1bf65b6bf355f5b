import NodeCanvas.Graph.Basic
import NodeCanvas.Json.Printer

namespace NodeCanvas

structure RunData where
  /-- What the terminal nodes received, under their ids. -/
  inputs : Dict String Json := .empty
  errors : Dict String Json := .empty
  executed : List String := []
deriving BEq, DecidableEq

structure RunReport where
  success : Bool := true
  data : RunData := {}
  error : Option String := none
deriving BEq, DecidableEq

namespace RunData

def fieldNames : List String := ["response_inputs", "errors", "executed_nodes"]

def ofSource? (s : Source) : Option RunData := do
  let f ← s.fields? fieldNames
  return {
    inputs := ← f.given? "response_inputs" .empty (Source.dict? Source.toJson?)
    errors := ← f.given? "errors" .empty (Source.dict? Source.toJson?)
    executed := ← f.given? "executed_nodes" [] (Source.list? Source.text?)
  }

def toJson (d : RunData) : Json := .record [
  Json.member "response_inputs" (.ofDict d.inputs),
  Json.member "errors" (.ofDict d.errors),
  Json.member "executed_nodes" (.texts d.executed)]

instance : Written RunData := ⟨ofSource?, toJson⟩

end RunData

namespace RunReport

def failure (error : String) : RunReport := { success := false, error := some error }

def fieldNames : List String := ["success", "data", "error"]

def ofSource? (s : Source) : Option RunReport := do
  let f ← s.fields? fieldNames
  return {
    success := ← f.given? "success" true Source.flag?
    data := ← f.given? "data" {} RunData.ofSource?
    error := ← f.optional? "error" Source.text?
  }

def toJson (r : RunReport) : Json := .record [
  Json.member "success" (.bool r.success),
  Json.member "data" r.data.toJson,
  Json.memberIf? "error" r.error .str]

instance : Written RunReport := ⟨ofSource?, toJson⟩

end RunReport

def Json.shownMember? (key : String) (j : Json) : Option String :=
  ((j.member? key).filter fun value => !isBlank (some value)).map displayText

/-- The response that a terminal node shows; its content is the response itself where none is
given. -/
def Annotations.ofInputs? (inputs : Json) : Option Annotations :=
  (inputs.shownMember? "final_response").map fun response => {
    response := some response
    content := some ((inputs.shownMember? "response_content").getD response) }

namespace RunData

def annotations (d : RunData) : Dict String Annotations :=
  let responses := d.inputs.entries.foldl (fun found entry =>
    match Annotations.ofInputs? entry.2 with
    | some shown => found.insert entry.1 shown
    | none => found) Dict.empty
  d.errors.entries.foldl (fun found entry =>
    let shown := (found.get? entry.1).getD {}
    found.insert entry.1 { shown with error := some entry.2.displayText }) responses

end RunData

/-- How many nodes were annotated, and the ids that no node has. -/
structure Projection where
  annotated : Nat := 0
  skipped : List String := []
deriving DecidableEq

def Projection.toJson (p : Projection) : Json :=
  .obj [("annotated", .natural p.annotated), ("skipped", .texts p.skipped)]

namespace Graph

def annotateAll (g : Graph) (summary : Projection) :
    List (String × Annotations) → Projection × Graph
  | [] => (summary, g)
  | (id, shown) :: rest =>
    match g.annotate? id shown with
    | some g => g.annotateAll { summary with annotated := summary.annotated + 1 } rest
    | none => g.annotateAll { summary with skipped := summary.skipped ++ [id] } rest

/-- The graph that shows a report and nothing of an earlier one. -/
def project (g : Graph) (r : RunReport) : Projection × Graph :=
  g.clearAnnotations.annotateAll {} r.data.annotations.entries

end Graph

structure Highlight where
  nodes : Dict String Unit := .empty
  edges : Dict String Unit := .empty
deriving DecidableEq

namespace Highlight

def ofGraph (g : Graph) : Highlight where
  nodes := .ofList (g.nodeIds.map fun id => (id, ()))
  edges := .ofList (g.edgeIds.map fun id => (id, ()))

def isActive (h : Highlight) : Bool := !h.nodes.isEmpty || !h.edges.isEmpty

def hasNode (h : Highlight) (id : String) : Bool := h.nodes.contains id

def hasEdge (h : Highlight) (id : String) : Bool := h.edges.contains id

def nodeIds (h : Highlight) : List String := h.nodes.keys

def edgeIds (h : Highlight) : List String := h.edges.keys

end Highlight

end NodeCanvas
