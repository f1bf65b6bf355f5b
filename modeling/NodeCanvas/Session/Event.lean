import NodeCanvas.Json.Tagged
import NodeCanvas.NodeType.Written

namespace NodeCanvas

inductive Change where
  | nodeAdded (nodeId nodeType : String)
  | nodeDeleted (nodeId : String)
  | edgeAdded (edgeId : String)
  | edgeRemoved (edgeId : String)
  | parametersUpdated (nodeId : String)
  | nodeMoved (nodeId : String)
  | replaced
deriving DecidableEq

namespace Change

def toJson : Change → Json
  | .nodeAdded nodeId nodeType =>
    .obj [("kind", .str "nodeAdded"), ("nodeId", .str nodeId), ("nodeType", .str nodeType)]
  | .nodeDeleted nodeId => .obj [("kind", .str "nodeDeleted"), ("nodeId", .str nodeId)]
  | .edgeAdded edgeId => .obj [("kind", .str "edgeAdded"), ("edgeId", .str edgeId)]
  | .edgeRemoved edgeId => .obj [("kind", .str "edgeRemoved"), ("edgeId", .str edgeId)]
  | .parametersUpdated nodeId =>
    .obj [("kind", .str "parametersUpdated"), ("nodeId", .str nodeId)]
  | .nodeMoved nodeId => .obj [("kind", .str "nodeMoved"), ("nodeId", .str nodeId)]
  | .replaced => .obj [("kind", .str "replaced")]

def kinds : List String :=
  ["nodeAdded", "nodeDeleted", "edgeAdded", "edgeRemoved", "parametersUpdated", "nodeMoved",
    "replaced"]

private def ofField? (make : String → Change) (field : String) (s : Source) : Option Change := do
  let f ← s.fields? [field]
  return make (← f.required? field Source.text?)

def ofKind? (kind : String) (s : Source) : Option Change :=
  match kind with
  | "nodeAdded" => do
    let f ← s.fields? ["nodeId", "nodeType"]
    return .nodeAdded (← f.required? "nodeId" Source.text?)
      (← f.required? "nodeType" Source.text?)
  | "nodeDeleted" => ofField? .nodeDeleted "nodeId" s
  | "edgeAdded" => ofField? .edgeAdded "edgeId" s
  | "edgeRemoved" => ofField? .edgeRemoved "edgeId" s
  | "parametersUpdated" => ofField? .parametersUpdated "nodeId" s
  | "nodeMoved" => ofField? .nodeMoved "nodeId" s
  | "replaced" => s.noFields?.map fun _ => .replaced
  | _ => none

def ofSource? (s : Source) : Option Change := do
  let (tag, fields) ← s.tagged? "kind"
  ofKind? (← tag.tagName?) fields

def ofInner? (s : Source) : Option Change := do
  let (tag, fields) ← s.tagged? "kind"
  ofKind? (← tag.innerTagName? kinds) fields

instance : Written Change := ⟨ofSource?, toJson⟩

end Change

inductive Event where
  | catalogLoaded (nodeTypes : Nat)
  | catalogFetchFailed (error : String)
  | graphChanged (change : Change)
  | panelOpened (nodeId : String)
  | panelClosed (nodeId : String) (saved : Bool)
  | fieldsReset (nodeId : String) (fields : List String)
  | runStarted (nodeIds edgeIds : List String)
  | runFinished (success : Bool) (error : Option String)
deriving DecidableEq

namespace Event

def toJson : Event → Json
  | .catalogLoaded nodeTypes =>
    .obj [("type", .str "catalogLoaded"), ("nodeTypes", .natural nodeTypes)]
  | .catalogFetchFailed error =>
    .obj [("type", .str "catalogFetchFailed"), ("error", .str error)]
  | .graphChanged change => .obj [("type", .str "graphChanged"), ("change", change.toJson)]
  | .panelOpened nodeId => .obj [("type", .str "panelOpened"), ("nodeId", .str nodeId)]
  | .panelClosed nodeId saved =>
    .obj [("type", .str "panelClosed"), ("nodeId", .str nodeId), ("saved", .bool saved)]
  | .fieldsReset nodeId fields =>
    .obj [("type", .str "fieldsReset"), ("nodeId", .str nodeId), ("fields", .texts fields)]
  | .runStarted nodeIds edgeIds =>
    .obj [("type", .str "executionStarted"), ("nodeIds", .texts nodeIds),
      ("edgeIds", .texts edgeIds)]
  | .runFinished success error =>
    .obj [("type", .str "executionFinished"), ("success", .bool success),
      ("error", error.elim .null .str)]

def ofKind? (kind : String) (s : Source) : Option Event :=
  match kind with
  | "catalogLoaded" => do
    let f ← s.fields? ["nodeTypes"]
    return .catalogLoaded (← f.required? "nodeTypes" (Source.natural? 64))
  | "catalogFetchFailed" => do
    let f ← s.fields? ["error"]
    return .catalogFetchFailed (← f.required? "error" Source.text?)
  | "graphChanged" => do
    let f ← s.fields? ["change"]
    return .graphChanged (← f.required? "change" Change.ofInner?)
  | "panelOpened" => do
    let f ← s.fields? ["nodeId"]
    return .panelOpened (← f.required? "nodeId" Source.text?)
  | "panelClosed" => do
    let f ← s.fields? ["nodeId", "saved"]
    return .panelClosed (← f.required? "nodeId" Source.text?)
      (← f.required? "saved" Source.flag?)
  | "fieldsReset" => do
    let f ← s.fields? ["nodeId", "fields"]
    return .fieldsReset (← f.required? "nodeId" Source.text?)
      (← f.required? "fields" (Source.list? Source.text?))
  | "executionStarted" => do
    let f ← s.fields? ["nodeIds", "edgeIds"]
    return .runStarted (← f.required? "nodeIds" (Source.list? Source.text?))
      (← f.required? "edgeIds" (Source.list? Source.text?))
  | "executionFinished" => do
    let f ← s.fields? ["success", "error"]
    return .runFinished (← f.required? "success" Source.flag?)
      (← f.nullable? "error" Source.text?)
  | _ => none

def ofSource? (s : Source) : Option Event := do
  let (tag, fields) ← s.tagged? "type"
  ofKind? (← tag.tagName?) fields

instance : Written Event := ⟨ofSource?, toJson⟩

end Event

end NodeCanvas
