import NodeCanvas.Proofs.Graph.Display
import NodeCanvas.Proofs.Session.Steps
import NodeCanvas.Proofs.Staging

namespace NodeCanvas.Session

/-- A run leaves the graph as it is, or as it shows a report. -/
theorem outcomeOf_graph {P : Graph → Prop} {g : Graph} (h : P g)
    (hshown : ∀ report, P (g.project report).2) (result : Except Failure RunReport) :
    P (outcomeOf g result).2 := by
  cases result with
  | error e => exact h
  | ok report =>
      have hreport := hshown report
      unfold outcomeOf
      dsimp only
      split <;> exact hreport

theorem outcomeOf_sameBody (g : Graph) (result : Except Failure RunReport) :
    g.SameBody (outcomeOf g result).2 :=
  outcomeOf_graph (.refl g) g.sameBody_project result

def opened (catalog : Catalog) (rules : Rules) : Session := { catalog, rules }

/-- A node that the operation makes gets an id that no node has and nothing is staged for. -/
def Move.Fresh (s : Session) : Move → Prop
  | .addNode key token => ∀ id after, s.graph.addFrom s.catalog key token = .ok (id, after) →
      id ∉ s.graph.nodeIds ∧ s.staging.get? id = none
  | _ => True

theorem Move.fresh_addNode {s : Session} {key : String} {token : Token} {id : String}
    {after : Graph} (h : s.graph.addFrom s.catalog key token = .ok (id, after))
    (hid : id ∉ s.graph.nodeIds) (hstaged : s.staging.get? id = none) :
    (Move.addNode key token).Fresh s := by
  intro other graph hother
  rw [h] at hother
  obtain ⟨rfl, -⟩ := Prod.mk.inj (Except.ok.inj hother)
  exact ⟨hid, hstaged⟩

/-- A session that comes from its start by operations, in any order. -/
inductive Reachable : Session → Prop
  | opened (catalog : Catalog) (rules : Rules) : Reachable (opened catalog rules)
  | step {s : Session} (move : Move) (h : Reachable s) (fresh : move.Fresh s) :
      Reachable (s.perform move).session

/-- What an operation can make of a session, with the reason why it could. Whatever the operation
is, `same` lets it leave the session as it is. -/
inductive Becomes (s : Session) : Move → Session → Prop
  | same (move : Move) : Becomes s move s
  | catalog (service : Service.Answers) (catalog : Catalog) :
      Becomes s (.refreshCatalog service) { s with catalog }
  | added {key : String} {token : Token} {id : String} {graph : Graph}
      (h : s.graph.addFrom s.catalog key token = .ok (id, graph)) :
      Becomes s (.addNode key token) { s with graph }
  | deleted {id : String} {graph : Graph} (h : s.graph.delete? id = some graph) :
      Becomes s (.deleteNode id)
        { s with graph, panel := if s.panel.any fun f => f.nodeId == id then none else s.panel }
  | connected {connection : Connection} {token : Token} {id : String} {graph : Graph}
      (h : s.graph.connect connection token = .ok (id, graph)) :
      Becomes s (.connect connection token) { s with graph }
  | edgeRemoved {id : String} {graph : Graph} (h : s.graph.removeEdge? id = some graph) :
      Becomes s (.removeEdge id) { s with graph }
  | updated {id : String} {values : Parameters} {staging : Staging} {graph : Graph}
      (h : s.staging.merge? s.graph id values = some (staging, graph)) :
      Becomes s (.updateParameters id values) { s with staging, graph }
  | moved {id : String} {position : Position} {graph : Graph}
      (h : s.graph.move? id position = some graph) :
      Becomes s (.moveNode id position) { s with graph }
  | panelOpened {id : String} {node : Node} (h : s.graph.node? id = some node) :
      Becomes s (.openPanel id) { s with
        graph := { s.graph with panel := some id }
        panel := some (.ofNode id node.type ((s.staging.get? id).getD node.parameters)) }
  | groupToggled {group : String} {form after : Form} {state : Bool} (h : s.panel = some form)
      (htoggle : form.toggleGroup? group = some (state, after)) :
      Becomes s (.togglePanelGroup group) { s with panel := some after }
  | edited {field : String} {edit : Edit} {form after : Form} (h : s.panel = some form)
      (hedit : form.edit field edit = .ok (some after)) :
      Becomes s (.editPanel field edit) { s with panel := some (after.reconcile s.choices).2 }
  | resolved (service : Service.Answers) {form : Form} (h : s.panel = some form) :
      Becomes s (.resolvePanel service) { s with
        panel := some ((form.resolve s.choices).run service).1.2.1
        choices := ((form.resolve s.choices).run service).1.2.2 }
  | panelClosed {form : Form} (h : s.panel = some form) :
      Becomes s .closePanel { s with panel := none, graph := s.graph.closePanel }
  | panelSaved {form : Form} {staging : Staging} {graph : Graph} (h : s.panel = some form)
      (hcommit : s.staging.commit? s.graph.closePanel form.nodeId form.values =
        some (staging, graph)) :
      Becomes s .savePanel { s with panel := none, staging, graph }
  | panelLost {form : Form} (h : s.panel = some form)
      (hcommit : s.staging.commit? s.graph.closePanel form.nodeId form.values = none) :
      Becomes s .savePanel { s with panel := none, graph := s.graph.closePanel }
  | begun {plan : Plan} (h : s.running = false) (hplan : s.plan = .ok plan) :
      Becomes s .beginRun { s with running := true, highlight := .ofGraph s.graph }
  | finished (result : Except Failure RunReport) :
      Becomes s (.finishRun result)
        { s with running := false, highlight := {}, graph := (outcomeOf s.graph result).2 }
  | cancelled (h : s.running = true) :
      Becomes s .cancelRun { s with running := false, highlight := {} }
  | ran (service : Service.Answers) {plan : Plan} (h : s.running = false)
      (hplan : s.plan = .ok plan) :
      Becomes s (.run service) { s with
        running := false
        highlight := {}
        graph := (outcomeOf s.graph (service (.run plan))).2 }
  | imported (document : Document) :
      Becomes s (.importDocument document)
        { s with panel := none, graph := document.toGraph, staging := .ofGraph document.toGraph }
  | loaded {id : String} {service : Service.Answers} {stored : StoredWorkflow}
      (h : service (.load id) = .ok stored) :
      Becomes s (.loadWorkflow id service) { s with
        panel := none
        graph := stored.data.toGraph
        staging := .ofGraph stored.data.toGraph }

theorem Gives.becomes {s : Session} {move : Move} {step : Step move.Answer}
    (h : s.Gives move step) : s.Becomes move step.session := by
  cases h with
  | failed | unlisted | unresolved | notOpen | notRunning => exact .same _
  | listed => exact .catalog _ _
  | added h => exact .added h
  | deleted h => exact .deleted h
  | connected h => exact .connected h
  | edgeRemoved h => exact .edgeRemoved h
  | updated h => exact .updated h
  | moved h => exact .moved h
  | panelOpened h => exact .panelOpened h
  | groupToggled h htoggle => exact .groupToggled h htoggle
  | edited h hedit => exact .edited h hedit
  | resolved service h => exact .resolved service h
  | panelClosed h => exact .panelClosed h
  | panelSaved h hcommit => exact .panelSaved h hcommit
  | panelLost h hcommit => exact .panelLost h hcommit
  | begun h hplan => exact .begun h hplan
  | finished result => exact .finished result
  | cancelled h => exact .cancelled h
  | ran service h hplan => exact .ran service h hplan
  | imported document => exact .imported document
  | loaded h => exact .loaded h

theorem becomes_perform (s : Session) (move : Move) :
    s.Becomes move (s.perform move).session :=
  (s.gives_perform move).becomes

/-- A panel whose node is there can be saved. -/
theorem savePanel_eq {s : Session} {form : Form} (h : s.panel = some form)
    (hnode : form.nodeId ∈ s.graph.nodeIds) :
    s.savePanel = {
      answer := true
      session := { s with
        panel := none
        staging := s.staging.save form.nodeId form.values
        graph := { s.graph with
          nodes := Graph.changeNode form.nodeId (fun n => { n with parameters := form.values })
            s.graph.nodes
          panel := none } }
      events := [.panelClosed form.nodeId true,
        .graphChanged (.parametersUpdated form.nodeId)] } := by
  have hthere : form.nodeId ∈ s.graph.closePanel.nodeIds := hnode
  rw [savePanel, h]
  simp only [s.staging.commit?_of_mem hthere]
  rfl

/-- Every operation on a session works on its graph by operations on graphs. -/
theorem Becomes.graph_reachable {s after : Session} {move : Move} (h : s.Becomes move after)
    (fresh : move.Fresh s) (hgraph : s.graph.Reachable) : after.graph.Reachable := by
  cases h with
  | same | catalog | groupToggled | edited | resolved | begun | cancelled => exact hgraph
  | added h =>
      refine hgraph.of_perform (.addFrom _ _ _) (fun id graph hadd => (fresh id graph hadd).1) ?_
      simp only [Graph.perform, h]
  | deleted h => exact hgraph.of_perform (.delete _) trivial (by rw [Graph.perform, h]; rfl)
  | @connected connection token id graph h =>
      exact hgraph.of_perform (.connect connection token) trivial (by simp only [Graph.perform, h])
  | edgeRemoved h => exact hgraph.of_perform (.removeEdge _) trivial (by rw [Graph.perform, h]; rfl)
  | updated h =>
      have hupdate := (Staging.merge?_eq_some h).1
      exact hgraph.of_perform (.updateParameters _ _) trivial (by rw [Graph.perform, hupdate]; rfl)
  | moved h => exact hgraph.of_perform (.move _ _) trivial (by rw [Graph.perform, h]; rfl)
  | @panelOpened id node h =>
      have hnode : s.graph.hasNode id = true := by
        rw [Graph.hasNode, h]
        rfl
      refine hgraph.of_perform (.openPanel id) trivial ?_
      rw [Graph.perform, Graph.openPanel?, if_pos hnode]
      rfl
  | panelClosed | panelLost => exact hgraph.step .closePanel trivial
  | panelSaved h hcommit =>
      have hreplace := (Staging.commit?_eq_some hcommit).1
      exact (hgraph.step .closePanel trivial).of_perform (.replaceParameters _ _) trivial
        (by rw [Graph.perform, Graph.perform, hreplace]; rfl)
  | finished | ran => exact outcomeOf_graph hgraph hgraph.project _
  | imported | loaded => exact .ofParts _ _

theorem Reachable.graph_reachable {s : Session} (h : s.Reachable) : s.graph.Reachable := by
  induction h with
  | opened catalog rules => exact .empty
  | step move h fresh ih => exact (becomes_perform _ move).graph_reachable fresh ih

end NodeCanvas.Session
