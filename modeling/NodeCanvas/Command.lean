import NodeCanvas.Session.Basic
import NodeCanvas.Service.Exchange

namespace NodeCanvas

inductive CommandFault where
  | invalid (reason : Rejection)
  | failed (reason : Failure)
  | service (reason : Service.Fault)
  /-- A file that cannot be read or written. -/
  | file
deriving DecidableEq

namespace CommandFault

def message : CommandFault → String
  | .invalid reason => "Invalid workflow: " ++ reason.message
  | .failed reason => reason.message
  | .service reason => reason.message
  | .file => "IO error: the file cannot be read or written"

/-- A graph that cannot be run is told apart from every other fault. -/
def exitCode : CommandFault → Nat
  | .invalid _ | .failed (.rejected _) => 2
  | _ => 1

end CommandFault

structure Report where
  output : String := ""
  /-- A document that is to be written before the output is shown. -/
  document : Option Document := none
  result : Except CommandFault Unit := .ok ()

namespace Report

def ofFault (e : CommandFault) : Report := { result := .error e }

def unwritten : Report := ofFault .file

end Report

namespace Command

/-- The document of a file, whose content is absent where it cannot be read. -/
def openDocument (file : Option String) : Except CommandFault Document :=
  match file with
  | none => .error .file
  | some text => (Document.ofText? text).elim (.error (.failed .unreadable)) .ok

def sessionOf (d : Document) : Session := (({} : Session).importDocument d).session

def lines (texts : List String) : String := String.join (texts.map fun text => text ++ "\n")

def compile (file : Option String) : Report :=
  match openDocument file with
  | .error e => .ofFault e
  | .ok d =>
    match (sessionOf d).plan with
    | .error reason => .ofFault (.invalid reason)
    | .ok plan => { output := lines [plan.toJson.pretty] }

def catalog : Dialogue Report := do
  let step ← ({} : Session).refreshCatalog
  match step.answer with
  | .error e => return .ofFault (.failed e)
  | .ok _ =>
    let catalog := step.session.catalog
    return {
      output := lines (catalog.order.filterMap fun key =>
        (catalog.get? key).map fun type =>
          key ++ "\t" ++ type.name ++ "\t" ++ type.description) }

def nodeLines (n : Node) : List String :=
  let start := n.id ++ " [" ++ n.type.key ++ "]"
  (n.annotations.content.map fun content => start ++ ": " ++ content).toList
    ++ (n.annotations.error.map fun error => start ++ " error: " ++ error).toList

def run (file : Option String) : Dialogue Report :=
  match openDocument file with
  | .error e => return .ofFault e
  | .ok d => do
    let step ← (sessionOf d).run
    return {
      output := lines (step.session.graph.nodes.flatMap nodeLines)
      result :=
        match step.answer.toExcept with
        | .ok _ => .ok ()
        | .error e => .error (.failed e) }

/-- Have the service keep a document, under its own name where no other is given. -/
def push (file : Option String) (name : Option String) : Dialogue Report :=
  match openDocument file with
  | .error e => return .ofFault e
  | .ok d => do
    let name := name.getD d.name
    match ← (sessionOf d).saveWorkflow name with
    | .error e => return .ofFault (.failed e)
    | .ok answer =>
      match answer.member? "id" with
      | some id => return { output := lines ["Saved '" ++ name ++ "' as " ++ id.compact] }
      | none => return { output := lines ["Saved '" ++ name ++ "'"] }

def pull (id path : String) (now : Instant) : Dialogue Report := do
  let step ← ({} : Session).loadWorkflow id
  match step.answer with
  | .error e => return .ofFault (.failed e)
  | .ok () =>
    let d := step.session.document none now
    return {
      document := some d
      output := lines ["Wrote " ++ toString d.data.nodes.length ++ " nodes and "
        ++ toString d.data.edges.length ++ " edges to " ++ path] }

def summaryLine (w : WorkflowSummary) : String :=
  w.idText ++ "\t" ++ w.name ++ "\t" ++ w.createdAt.getD "-"

def list : Dialogue Report := do
  match ← Session.listWorkflows with
  | .error e => return .ofFault (.failed e)
  | .ok summaries => return { output := lines (summaries.map summaryLine) }

end Command

end NodeCanvas
