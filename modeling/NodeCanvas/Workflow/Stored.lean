import NodeCanvas.Document.Basic

namespace NodeCanvas

structure SaveRequest where
  name : String
  data : GraphData
deriving DecidableEq

namespace SaveRequest

def fieldNames : List String := ["name", "data"]

def ofSource? (s : Source) : Option SaveRequest := do
  let f ← s.fields? fieldNames
  return {
    name := ← f.required? "name" Source.text?
    data := ← f.required? "data" GraphData.ofSource?
  }

def toJson (r : SaveRequest) : Json := .record [
  Json.member "name" (.str r.name),
  Json.member "data" r.data.toJson]

instance : Written SaveRequest := ⟨ofSource?, toJson⟩

end SaveRequest

structure StoredWorkflow where
  id : Option Json := none
  name : Option String := none
  data : GraphData
deriving DecidableEq

namespace StoredWorkflow

def fieldNames : List String := ["id", "name", "data"]

def ofSource? (s : Source) : Option StoredWorkflow := do
  let f ← s.fields? fieldNames
  return {
    id := ← f.optional? "id" Source.toJson?
    name := ← f.optional? "name" Source.text?
    data := ← f.required? "data" GraphData.ofSource?
  }

def toJson (w : StoredWorkflow) : Json := .record [
  Json.memberIf? "id" w.id fun id => id,
  Json.memberIf? "name" w.name .str,
  Json.member "data" w.data.toJson]

instance : Written StoredWorkflow := ⟨ofSource?, toJson⟩

end StoredWorkflow

structure WorkflowSummary where
  /-- A number or a text, as the service likes. -/
  id : Json
  name : String := ""
  createdAt : Option String := none
deriving DecidableEq

namespace WorkflowSummary

def idText (w : WorkflowSummary) : String := w.id.displayText

def fieldNames : List String := ["id", "name", "created_at"]

def ofSource? (s : Source) : Option WorkflowSummary := do
  let f ← s.fields? fieldNames
  return {
    id := ← f.required? "id" Source.toJson?
    name := ← f.given? "name" "" Source.text?
    createdAt := ← f.optional? "created_at" Source.text?
  }

def toJson (w : WorkflowSummary) : Json := .record [
  Json.member "id" w.id,
  Json.member "name" (.str w.name),
  Json.memberIf? "created_at" w.createdAt .str]

instance : Written WorkflowSummary := ⟨ofSource?, toJson⟩

end WorkflowSummary

end NodeCanvas
