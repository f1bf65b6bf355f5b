import NodeCanvas.Session.Event
import NodeCanvas.Form.View
import NodeCanvas.Form.Fetching
import NodeCanvas.Graph.Warnings
import NodeCanvas.Staging

/-!
The editing state of one canvas, and its operations. An operation gives an answer, the session
after it, and the events that it sends, in order. An operation that fails leaves the session as it
was.
-/
namespace NodeCanvas

structure Session where
  catalog : Catalog := {}
  graph : Graph := {}
  staging : Staging := {}
  choices : ChoiceCache := {}
  panel : Option Form := none
  highlight : Highlight := {}
  running : Bool := false
  rules : Rules := .standard

structure Step (α : Type) where
  answer : α
  session : Session
  events : List Event := []

structure PendingRun where
  plan : Plan
  warnings : List Warning
deriving DecidableEq

inductive Outcome where
  | completed (report : RunReport) (shown : Projection)
  /-- The service reported a failure, or could not be asked. -/
  | failed (error : String) (report : RunReport) (shown : Projection)
  | invalid (reason : Rejection)
  | alreadyRunning
deriving DecidableEq

namespace Outcome

def alreadyRunningMessage : String := "Workflow is already executing"

def isSuccess : Outcome → Bool
  | .completed .. => true
  | _ => false

def errorMessage : Outcome → Option String
  | .completed .. => none
  | .failed error .. => some error
  | .invalid reason => some reason.message
  | .alreadyRunning => some alreadyRunningMessage

/-- The report of a success; every other outcome is a failure. -/
def toExcept : Outcome → Except Failure RunReport
  | .completed report _ => .ok report
  | .invalid reason => .error (.rejected reason)
  | .failed error .. => .error (.run error)
  | .alreadyRunning => .error (.run alreadyRunningMessage)

end Outcome

namespace Session

/-- An answer that changes nothing and tells nothing. -/
def stay {α : Type} (s : Session) (answer : α) : Step α := { answer, session := s }

/-- The catalog that a service sent, or the failure to get one, which is always reported as a
failed fetch. -/
def takeListing (s : Session) (listing : Except Failure Listing) : Step (Except Failure Nat) :=
  match listing with
  | .ok listing =>
    let catalog := Catalog.ofListing listing
    { answer := .ok catalog.size
      session := { s with catalog }
      events := [.catalogLoaded catalog.size] }
  | .error e =>
    { answer := .error (match e with
        | .catalogFetch message => .catalogFetch message
        | other => .catalogFetch other.message)
      session := s
      events := [.catalogFetchFailed e.message] }

def refreshCatalog (s : Session) : Dialogue (Step (Except Failure Nat)) :=
  .ask .listing fun answer => .done (s.takeListing answer)

/-! Edits of the graph. -/

def addNode (s : Session) (key : String) (token : Token) : Step (Except Failure String) :=
  match s.graph.addFrom s.catalog key token with
  | .ok (id, graph) =>
    { answer := .ok id
      session := { s with graph }
      events := [.graphChanged (.nodeAdded id key)] }
  | .error e => s.stay (.error e)

def deleteNode (s : Session) (id : String) : Step Bool :=
  match s.graph.delete? id with
  | some graph =>
    if s.panel.any fun form => form.nodeId == id then
      { answer := true
        session := { s with graph, panel := none }
        events := [.panelClosed id false, .graphChanged (.nodeDeleted id)] }
    else
      { answer := true
        session := { s with graph }
        events := [.graphChanged (.nodeDeleted id)] }
  | none => s.stay false

def connect (s : Session) (c : Connection) (token : Token) : Step (Except Failure String) :=
  match s.graph.connect c token with
  | .ok (id, graph) =>
    { answer := .ok id
      session := { s with graph }
      events := [.graphChanged (.edgeAdded id)] }
  | .error e => s.stay (.error e)

def removeEdge (s : Session) (id : String) : Step Bool :=
  match s.graph.removeEdge? id with
  | some graph =>
    { answer := true
      session := { s with graph }
      events := [.graphChanged (.edgeRemoved id)] }
  | none => s.stay false

/-- Write values over those of a node without its panel; a panel opened later shows them. -/
def updateParameters (s : Session) (id : String) (values : Parameters) : Step Bool :=
  match s.staging.merge? s.graph id values with
  | some (staging, graph) =>
    { answer := true
      session := { s with staging, graph }
      events := [.graphChanged (.parametersUpdated id)] }
  | none => s.stay false

def moveNode (s : Session) (id : String) (position : Position) : Step Bool :=
  match s.graph.move? id position with
  | some graph =>
    { answer := true
      session := { s with graph }
      events := [.graphChanged (.nodeMoved id)] }
  | none => s.stay false

/-! The panel. -/

def closePanel (s : Session) : Step Unit :=
  match s.panel with
  | some form =>
    { answer := ()
      session := { s with panel := none, graph := s.graph.closePanel }
      events := [.panelClosed form.nodeId false] }
  | none => s.stay ()

/-- Open the panel of a node, in place of the panel of another one. -/
def openPanel (s : Session) (id : String) : Step Bool :=
  match s.staging.opening? s.graph id, s.graph.node? id with
  | some values, some node =>
    let closed :=
      if s.panel.any fun form => form.nodeId != id then s.closePanel else s.stay ()
    let s := closed.session
    { answer := true
      session := { s with
        graph := (s.graph.openPanel? id).getD s.graph
        panel := some (.ofNode id node.type values) }
      events := closed.events ++ [.panelOpened id] }
  | _, _ => s.stay false

def renderPanel (s : Session) : Except Halt (Option (List ShownGroup)) :=
  match s.panel with
  | some form => (form.render s.choices).map some
  | none => .ok none

def togglePanelGroup (s : Session) (group : String) : Step (Option Bool) :=
  match s.panel.bind fun form => form.toggleGroup? group with
  | some (state, form) => { answer := some state, session := { s with panel := some form } }
  | none => s.stay none

def resetEvents (form : Form) (reset : List String) : List Event :=
  if reset.isEmpty then [] else [.fieldsReset form.nodeId reset]

/-- Edit the open panel; dependent fields that are no longer offered are reset at once. An edit
that halts has changed nothing yet. -/
def editPanel (s : Session) (field : String) (edit : Edit) : Step (Except Halt Bool) :=
  match s.panel with
  | some form =>
    match form.edit field edit with
    | .ok (some form) =>
      let (reset, form) := form.reconcile s.choices
      { answer := .ok true
        session := { s with panel := some form }
        events := resetEvents form reset }
    | .ok none => s.stay (.ok false)
    | .error halt => s.stay (.error halt)
  | none => s.stay (.ok false)

def resolvePanel (s : Session) : Dialogue (Step (List String)) :=
  match s.panel with
  | some form => do
    let (reset, form, choices) ← form.resolve s.choices
    return {
      answer := reset
      session := { s with panel := some form, choices }
      events := resetEvents form reset }
  | none => return s.stay []

/-- Commit the values of the open panel and close it. -/
def savePanel (s : Session) : Step Bool :=
  match s.panel with
  | some form =>
    let s := { s with panel := none, graph := s.graph.closePanel }
    match s.staging.commit? s.graph form.nodeId form.values with
    | some (staging, graph) =>
      { answer := true
        session := { s with staging, graph }
        events := [.panelClosed form.nodeId true,
          .graphChanged (.parametersUpdated form.nodeId)] }
    | none =>
      { answer := false, session := s, events := [.panelClosed form.nodeId false] }
  | none => s.stay false

/-! Runs. -/

def plan (s : Session) : Except Rejection Plan := s.graph.plan s.rules

/-- Accept a run, if there is none on its way and the graph can be run. -/
def beginRun (s : Session) : Step (Except Outcome PendingRun) :=
  if s.running then s.stay (.error .alreadyRunning)
  else
    match s.plan with
    | .error reason => s.stay (.error (.invalid reason))
    | .ok plan =>
      let highlight := Highlight.ofGraph s.graph
      { answer := .ok { plan, warnings := s.graph.warnings }
        session := { s with running := true, highlight }
        events := [.runStarted highlight.nodeIds highlight.edgeIds] }

def unnamedError : String := "Execution failed"

def outcomeOf (g : Graph) (result : Except Failure RunReport) : Outcome × Graph :=
  match result with
  | .ok report =>
    let (shown, graph) := g.project report
    if report.success then (.completed report shown, graph)
    else (.failed (report.error.getD unnamedError) report shown, graph)
  | .error e => (.failed e.message (.failure e.message) {}, g)

/-- End the run on its way with what the service answered. -/
def finishRun (s : Session) (result : Except Failure RunReport) : Step Outcome :=
  let (outcome, graph) := outcomeOf s.graph result
  { answer := outcome
    session := { s with running := false, highlight := {}, graph }
    events := [.runFinished outcome.isSuccess outcome.errorMessage] }

def cancelRun (s : Session) : Step Unit :=
  if s.running then
    { answer := ()
      session := { s with running := false, highlight := {} }
      events := [.runFinished false (some "Execution cancelled")] }
  else s.stay ()

def run (s : Session) : Dialogue (Step Outcome) :=
  let started := s.beginRun
  match started.answer with
  | .error outcome => .done { started with answer := outcome }
  | .ok pending =>
    .ask (.run pending.plan) fun answer =>
      let finished := started.session.finishRun answer
      .done { finished with events := started.events ++ finished.events }

/-! Documents and stored workflows. -/

def document (s : Session) (name : Option String) (now : Instant) : Document :=
  .ofGraph s.graph name now

/-- Put a graph in place of the graph; its parameters are all that is staged. -/
def replaceGraph (s : Session) (graph : Graph) : Step Unit :=
  let closed := s.closePanel
  { answer := ()
    session := { closed.session with graph, staging := .ofGraph graph }
    events := closed.events ++ [.graphChanged .replaced] }

def importDocument (s : Session) (d : Document) : Step Unit := s.replaceGraph d.toGraph

def saveWorkflow (s : Session) (name : String) : Dialogue (Except Failure Json) :=
  .ask (.save { name, data := .ofGraph s.graph }) .done

def loadWorkflow (s : Session) (id : String) : Dialogue (Step (Except Failure Unit)) :=
  .ask (.load id) fun answer =>
    match answer with
    | .ok stored => .done { s.replaceGraph stored.data.toGraph with answer := .ok () }
    | .error e => .done (s.stay (.error e))

def listWorkflows : Dialogue (Except Failure (List WorkflowSummary)) := .ask .workflows .done

end Session

end NodeCanvas
