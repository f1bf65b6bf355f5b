import NodeCanvas.Session.Basic

namespace NodeCanvas.Session

/-- An operation that may change a session. -/
inductive Move where
  | refreshCatalog (service : Service.Answers)
  | addNode (key : String) (token : Token)
  | deleteNode (id : String)
  | connect (connection : Connection) (token : Token)
  | removeEdge (id : String)
  | updateParameters (id : String) (values : Parameters)
  | moveNode (id : String) (position : Position)
  | openPanel (id : String)
  | togglePanelGroup (group : String)
  | editPanel (field : String) (edit : Edit)
  | resolvePanel (service : Service.Answers)
  | closePanel
  | savePanel
  | beginRun
  | finishRun (result : Except Failure RunReport)
  | cancelRun
  | run (service : Service.Answers)
  | importDocument (document : Document)
  | loadWorkflow (id : String) (service : Service.Answers)

def Move.Answer : Move → Type
  | .refreshCatalog _ => Except Failure Nat
  | .addNode .. | .connect .. => Except Failure String
  | .deleteNode _ | .removeEdge _ | .updateParameters .. | .moveNode .. | .openPanel _
  | .savePanel => Bool
  | .editPanel .. => Except Halt Bool
  | .togglePanelGroup _ => Option Bool
  | .resolvePanel _ => List String
  | .closePanel | .cancelRun | .importDocument _ => Unit
  | .beginRun => Except Outcome PendingRun
  | .finishRun _ | .run _ => Outcome
  | .loadWorkflow .. => Except Failure Unit

/-- The answer tells that the operation failed, or that it stopped. What cannot fail is what has
nothing to answer, or answers with what it found. -/
def Move.Failed : (move : Move) → move.Answer → Prop
  | .refreshCatalog _, answer => ∃ e : Failure, answer = Except.error e
  | .addNode .., answer => ∃ e : Failure, answer = Except.error e
  | .connect .., answer => ∃ e : Failure, answer = Except.error e
  | .loadWorkflow .., answer => ∃ e : Failure, answer = Except.error e
  | .deleteNode _, answer => answer = false
  | .removeEdge _, answer => answer = false
  | .updateParameters .., answer => answer = false
  | .moveNode .., answer => answer = false
  | .openPanel _, answer => answer = false
  | .editPanel .., answer => answer ≠ Except.ok true
  | .savePanel, answer => answer = false
  | .togglePanelGroup _, answer => answer = none
  | .beginRun, answer => ∃ outcome : Outcome, answer = Except.error outcome
  | .run _, answer => (∃ reason, answer = Outcome.invalid reason) ∨ answer = Outcome.alreadyRunning
  | .resolvePanel _, _ | .closePanel, _ | .finishRun _, _ | .cancelRun, _
  | .importDocument _, _ => False

def perform (s : Session) : (move : Move) → Step move.Answer
  | .refreshCatalog service => (s.refreshCatalog.run service).1
  | .addNode key token => s.addNode key token
  | .deleteNode id => s.deleteNode id
  | .connect connection token => s.connect connection token
  | .removeEdge id => s.removeEdge id
  | .updateParameters id values => s.updateParameters id values
  | .moveNode id position => s.moveNode id position
  | .openPanel id => s.openPanel id
  | .togglePanelGroup group => s.togglePanelGroup group
  | .editPanel field edit => s.editPanel field edit
  | .resolvePanel service => (s.resolvePanel.run service).1
  | .closePanel => s.closePanel
  | .savePanel => s.savePanel
  | .beginRun => s.beginRun
  | .finishRun result => s.finishRun result
  | .cancelRun => s.cancelRun
  | .run service => (s.run.run service).1
  | .importDocument document => s.importDocument document
  | .loadWorkflow id service => ((s.loadWorkflow id).run service).1

/-- The events of giving up the open panel, if it is one of these. -/
def abandoned (s : Session) (which : Form → Bool) : List Event :=
  match s.panel with
  | some form => if which form then [.panelClosed form.nodeId false] else []
  | none => []

theorem abandoned_of_none {s : Session} (h : s.panel = none) (which : Form → Bool) :
    s.abandoned which = [] := by
  rw [abandoned, h]

theorem abandoned_of_some {s : Session} {form : Form} (h : s.panel = some form)
    (which : Form → Bool) :
    s.abandoned which = if which form then [.panelClosed form.nodeId false] else [] := by
  rw [abandoned, h]

/-- What an operation can give, all of it, with the reason why it could. -/
inductive Gives (s : Session) : (move : Move) → Step move.Answer → Prop
  | failed {move : Move} {answer : move.Answer} (h : move.Failed answer)
      (hmove : ∀ service, move ≠ .refreshCatalog service) : Gives s move (s.stay answer)
  | unlisted {service : Service.Answers} {e : Failure} (h : service .listing = .error e)
      (reason : Failure) :
      Gives s (.refreshCatalog service) {
        answer := (.error reason : Except Failure Nat)
        session := s
        events := [.catalogFetchFailed e.message] }
  | listed {service : Service.Answers} {listing : Listing} (h : service .listing = .ok listing) :
      Gives s (.refreshCatalog service) {
        answer := (.ok (Catalog.ofListing listing).size : Except Failure Nat)
        session := { s with catalog := .ofListing listing }
        events := [.catalogLoaded (Catalog.ofListing listing).size] }
  | added {key : String} {token : Token} {id : String} {graph : Graph}
      (h : s.graph.addFrom s.catalog key token = .ok (id, graph)) :
      Gives s (.addNode key token) {
        answer := (.ok id : Except Failure String)
        session := { s with graph }
        events := [.graphChanged (.nodeAdded id key)] }
  | deleted {id : String} {graph : Graph} (h : s.graph.delete? id = some graph) :
      Gives s (.deleteNode id) {
        answer := true
        session := { s with
          graph, panel := if s.panel.any fun f => f.nodeId == id then none else s.panel }
        events := s.abandoned (fun f => f.nodeId == id) ++ [.graphChanged (.nodeDeleted id)] }
  | connected {connection : Connection} {token : Token} {id : String} {graph : Graph}
      (h : s.graph.connect connection token = .ok (id, graph)) :
      Gives s (.connect connection token) {
        answer := (.ok id : Except Failure String)
        session := { s with graph }
        events := [.graphChanged (.edgeAdded id)] }
  | edgeRemoved {id : String} {graph : Graph} (h : s.graph.removeEdge? id = some graph) :
      Gives s (.removeEdge id) {
        answer := true
        session := { s with graph }
        events := [.graphChanged (.edgeRemoved id)] }
  | updated {id : String} {values : Parameters} {staging : Staging} {graph : Graph}
      (h : s.staging.merge? s.graph id values = some (staging, graph)) :
      Gives s (.updateParameters id values) {
        answer := true
        session := { s with staging, graph }
        events := [.graphChanged (.parametersUpdated id)] }
  | moved {id : String} {position : Position} {graph : Graph}
      (h : s.graph.move? id position = some graph) :
      Gives s (.moveNode id position) {
        answer := true
        session := { s with graph }
        events := [.graphChanged (.nodeMoved id)] }
  | panelOpened {id : String} {node : Node} (h : s.graph.node? id = some node) :
      Gives s (.openPanel id) {
        answer := true
        session := { s with
          graph := { s.graph with panel := some id }
          panel := some (.ofNode id node.type ((s.staging.get? id).getD node.parameters)) }
        events := s.abandoned (fun f => f.nodeId != id) ++ [.panelOpened id] }
  | groupToggled {group : String} {form after : Form} {state : Bool} (h : s.panel = some form)
      (htoggle : form.toggleGroup? group = some (state, after)) :
      Gives s (.togglePanelGroup group) {
        answer := some state
        session := { s with panel := some after } }
  | edited {field : String} {edit : Edit} {form after : Form} (h : s.panel = some form)
      (hedit : form.edit field edit = .ok (some after)) :
      Gives s (.editPanel field edit) {
        answer := .ok true
        session := { s with panel := some (after.reconcile s.choices).2 }
        events := resetEvents (after.reconcile s.choices).2 (after.reconcile s.choices).1 }
  | unresolved {service : Service.Answers} (h : s.panel = none) :
      Gives s (.resolvePanel service) (s.stay [])
  | resolved (service : Service.Answers) {form : Form} (h : s.panel = some form) :
      Gives s (.resolvePanel service) {
        answer := ((form.resolve s.choices).run service).1.1
        session := { s with
          panel := some ((form.resolve s.choices).run service).1.2.1
          choices := ((form.resolve s.choices).run service).1.2.2 }
        events := resetEvents ((form.resolve s.choices).run service).1.2.1
          ((form.resolve s.choices).run service).1.1 }
  | notOpen (h : s.panel = none) : Gives s .closePanel (s.stay ())
  | panelClosed {form : Form} (h : s.panel = some form) :
      Gives s .closePanel {
        answer := ()
        session := { s with panel := none, graph := s.graph.closePanel }
        events := [.panelClosed form.nodeId false] }
  | panelSaved {form : Form} {staging : Staging} {graph : Graph} (h : s.panel = some form)
      (hcommit : s.staging.commit? s.graph.closePanel form.nodeId form.values =
        some (staging, graph)) :
      Gives s .savePanel {
        answer := true
        session := { s with panel := none, staging, graph }
        events := [.panelClosed form.nodeId true, .graphChanged (.parametersUpdated form.nodeId)] }
  | panelLost {form : Form} (h : s.panel = some form)
      (hcommit : s.staging.commit? s.graph.closePanel form.nodeId form.values = none) :
      Gives s .savePanel {
        answer := false
        session := { s with panel := none, graph := s.graph.closePanel }
        events := [.panelClosed form.nodeId false] }
  | begun {plan : Plan} (h : s.running = false) (hplan : s.plan = .ok plan) :
      Gives s .beginRun {
        answer := (.ok { plan, warnings := s.graph.warnings } : Except Outcome PendingRun)
        session := { s with running := true, highlight := .ofGraph s.graph }
        events := [.runStarted (Highlight.ofGraph s.graph).nodeIds
          (Highlight.ofGraph s.graph).edgeIds] }
  | finished (result : Except Failure RunReport) : Gives s (.finishRun result) {
      answer := (outcomeOf s.graph result).1
      session := { s with
        running := false, highlight := {}, graph := (outcomeOf s.graph result).2 }
      events := [.runFinished (outcomeOf s.graph result).1.isSuccess
        (outcomeOf s.graph result).1.errorMessage] }
  | notRunning (h : s.running = false) : Gives s .cancelRun (s.stay ())
  | cancelled (h : s.running = true) :
      Gives s .cancelRun {
        answer := ()
        session := { s with running := false, highlight := {} }
        events := [.runFinished false (some "Execution cancelled")] }
  | ran (service : Service.Answers) {plan : Plan} (h : s.running = false)
      (hplan : s.plan = .ok plan) :
      Gives s (.run service) {
        answer := (outcomeOf s.graph (service (.run plan))).1
        session := { s with
          running := false
          highlight := {}
          graph := (outcomeOf s.graph (service (.run plan))).2 }
        events := [
          .runStarted (Highlight.ofGraph s.graph).nodeIds (Highlight.ofGraph s.graph).edgeIds,
          .runFinished (outcomeOf s.graph (service (.run plan))).1.isSuccess
            (outcomeOf s.graph (service (.run plan))).1.errorMessage] }
  | imported (document : Document) : Gives s (.importDocument document) {
      answer := ()
      session := { s with
        panel := none, graph := document.toGraph, staging := .ofGraph document.toGraph }
      events := s.abandoned (fun _ => true) ++ [.graphChanged .replaced] }
  | loaded {id : String} {service : Service.Answers} {stored : StoredWorkflow}
      (h : service (.load id) = .ok stored) :
      Gives s (.loadWorkflow id service) {
        answer := (.ok () : Except Failure Unit)
        session := { s with
          panel := none
          graph := stored.data.toGraph
          staging := .ofGraph stored.data.toGraph }
        events := s.abandoned (fun _ => true) ++ [.graphChanged .replaced] }

section Gives

variable (s : Session)

theorem deleteNode_eq {id : String} {graph : Graph} (h : s.graph.delete? id = some graph) :
    s.deleteNode id = {
      answer := true
      session := { s with
        graph, panel := if s.panel.any fun f => f.nodeId == id then none else s.panel }
      events := s.abandoned (fun f => f.nodeId == id) ++ [.graphChanged (.nodeDeleted id)] } := by
  unfold deleteNode
  rw [h]
  cases hpanel : s.panel with
  | none => simp [abandoned_of_none hpanel]
  | some form =>
      rw [abandoned_of_some hpanel]
      by_cases hid : form.nodeId = id
      · simp [hid]
      · simp [hid]

theorem openPanel_eq {id : String} {node : Node} (h : s.graph.node? id = some node) :
    s.openPanel id = {
      answer := true
      session := { s with
        graph := { s.graph with panel := some id }
        panel := some (.ofNode id node.type ((s.staging.get? id).getD node.parameters)) }
      events := s.abandoned (fun f => f.nodeId != id) ++ [.panelOpened id] } := by
  have hopening : s.staging.opening? s.graph id =
      some ((s.staging.get? id).getD node.parameters) := by
    rw [Staging.opening?, h]
    rfl
  have hopen : ∀ g : Graph, g.nodes = s.graph.nodes →
      (g.openPanel? id).getD g = { g with panel := some id } := by
    intro g hg
    have hnode : g.hasNode id = true := by
      rw [Graph.hasNode, Graph.node?, hg, ← Graph.node?, h]
      rfl
    rw [Graph.openPanel?, if_pos hnode]
    rfl
  unfold openPanel
  rw [hopening, h]
  cases hpanel : s.panel with
  | none => simp [abandoned_of_none hpanel, stay, hopen s.graph rfl]
  | some form =>
      rw [abandoned_of_some hpanel]
      cases hother : form.nodeId != id with
      | true =>
          have hclosed := hopen s.graph.closePanel rfl
          rw [Graph.closePanel] at hclosed
          simp [hother, closePanel, hpanel, Graph.closePanel, hclosed]
      | false => simp [hother, stay, hopen s.graph rfl]

theorem openPanel_of_node {id : String} {node : Node} (h : s.graph.node? id = some node) :
    (s.openPanel id).answer = true ∧ (s.openPanel id).session = { s with
      graph := { s.graph with panel := some id }
      panel := some (.ofNode id node.type ((s.staging.get? id).getD node.parameters)) } := by
  rw [s.openPanel_eq h]
  exact ⟨rfl, rfl⟩

theorem openPanel_of_none {id : String} (h : s.graph.node? id = none) :
    s.openPanel id = s.stay false := by
  rw [openPanel, h]
  split <;> simp_all

theorem replaceGraph_eq (graph : Graph) :
    s.replaceGraph graph = {
      answer := ()
      session := { s with panel := none, graph, staging := .ofGraph graph }
      events := s.abandoned (fun _ => true) ++ [.graphChanged .replaced] } := by
  unfold replaceGraph closePanel
  cases hpanel : s.panel with
  | none => simp [abandoned_of_none hpanel, stay, ← hpanel]
  | some form =>
      rw [abandoned_of_some hpanel]
      rfl

theorem replaceGraph_session (graph : Graph) :
    (s.replaceGraph graph).session =
      { s with panel := none, graph, staging := .ofGraph graph } := by
  rw [replaceGraph_eq]

theorem resolvePanel_eq (service : Service.Answers) {form : Form} (h : s.panel = some form) :
    (s.resolvePanel.run service).1 = {
      answer := ((form.resolve s.choices).run service).1.1
      session := { s with
        panel := some ((form.resolve s.choices).run service).1.2.1
        choices := ((form.resolve s.choices).run service).1.2.2 }
      events := resetEvents ((form.resolve s.choices).run service).1.2.1
        ((form.resolve s.choices).run service).1.1 } := by
  unfold resolvePanel
  rw [h]
  simp only [bind, Dialogue.run_bind]
  rfl

/-- A run that is accepted ends with the answer of the service. -/
theorem run_eq (service : Service.Answers) {plan : Plan} (h : s.running = false)
    (hplan : s.plan = .ok plan) :
    (s.run.run service).1 = {
      answer := (outcomeOf s.graph (service (.run plan))).1
      session := { s with
        running := false
        highlight := {}
        graph := (outcomeOf s.graph (service (.run plan))).2 }
      events := [
        .runStarted (Highlight.ofGraph s.graph).nodeIds (Highlight.ofGraph s.graph).edgeIds,
        .runFinished (outcomeOf s.graph (service (.run plan))).1.isSuccess
          (outcomeOf s.graph (service (.run plan))).1.errorMessage] } := by
  simp [run, beginRun, h, hplan, Dialogue.run, finishRun]

theorem run_session (service : Service.Answers) {plan : Plan} (h : s.running = false)
    (hplan : s.plan = .ok plan) :
    (s.run.run service).1.session = { s with
      running := false
      highlight := {}
      graph := (outcomeOf s.graph (service (.run plan))).2 } := by
  rw [s.run_eq service h hplan]

theorem gives_perform (move : Move) : s.Gives move (s.perform move) := by
  cases move with
  | refreshCatalog service =>
      simp only [perform, refreshCatalog, Dialogue.run, takeListing]
      split
      · exact .listed ‹_›
      · exact .unlisted ‹_› _
  | addNode key token =>
      simp only [perform, addNode]
      split
      · exact .added ‹_›
      · exact .failed ⟨_, rfl⟩ nofun
  | deleteNode id =>
      cases hdelete : s.graph.delete? id with
      | some graph =>
          rw [perform, s.deleteNode_eq hdelete]
          exact .deleted hdelete
      | none =>
          rw [perform, deleteNode, hdelete]
          exact .failed rfl nofun
  | connect connection token =>
      simp only [perform, connect]
      split
      · exact .connected ‹_›
      · exact .failed ⟨_, rfl⟩ nofun
  | removeEdge id =>
      simp only [perform, removeEdge]
      split
      · exact .edgeRemoved ‹_›
      · exact .failed rfl nofun
  | updateParameters id values =>
      simp only [perform, updateParameters]
      split
      · exact .updated ‹_›
      · exact .failed rfl nofun
  | moveNode id position =>
      simp only [perform, moveNode]
      split
      · exact .moved ‹_›
      · exact .failed rfl nofun
  | openPanel id =>
      cases hnode : s.graph.node? id with
      | some node =>
          rw [perform, s.openPanel_eq hnode]
          exact .panelOpened hnode
      | none =>
          rw [perform, s.openPanel_of_none hnode]
          exact .failed rfl nofun
  | togglePanelGroup group =>
      simp only [perform, togglePanelGroup]
      split
      · rename_i htoggle
        obtain ⟨form, hpanel, htoggle⟩ := Option.bind_eq_some_iff.mp htoggle
        exact .groupToggled hpanel htoggle
      · exact .failed rfl nofun
  | editPanel field edit =>
      simp only [perform, editPanel]
      split
      · split
        · exact .edited ‹_› ‹_›
        · exact .failed nofun nofun
        · exact .failed nofun nofun
      · exact .failed nofun nofun
  | resolvePanel service =>
      cases hpanel : s.panel with
      | some form =>
          rw [perform, s.resolvePanel_eq service hpanel]
          exact .resolved service hpanel
      | none =>
          rw [perform, resolvePanel, hpanel]
          exact .unresolved hpanel
  | closePanel =>
      simp only [perform, closePanel]
      split
      · exact .panelClosed ‹_›
      · exact .notOpen ‹_›
  | savePanel =>
      simp only [perform, savePanel]
      split
      · split
        · exact .panelSaved ‹_› ‹_›
        · exact .panelLost ‹_› ‹_›
      · exact .failed rfl nofun
  | beginRun =>
      simp only [perform, beginRun]
      split
      · exact .failed ⟨_, rfl⟩ nofun
      · rename_i hrunning
        split
        · exact .failed ⟨_, rfl⟩ nofun
        · exact .begun (by simpa using hrunning) ‹_›
  | finishRun result => exact .finished result
  | cancelRun =>
      simp only [perform, cancelRun]
      split
      · exact .cancelled ‹_›
      · rename_i hidle
        exact .notRunning (by simpa using hidle)
  | run service =>
      cases hrunning : s.running with
      | true =>
          rw [perform, run, beginRun, if_pos hrunning]
          exact .failed (.inr rfl) nofun
      | false =>
          cases hplan : s.plan with
          | error reason =>
              rw [perform, run, beginRun, hrunning, if_neg Bool.false_ne_true, hplan]
              exact .failed (.inl ⟨_, rfl⟩) nofun
          | ok plan =>
              rw [perform, s.run_eq service hrunning hplan]
              exact .ran service hrunning hplan
  | importDocument document =>
      rw [perform, importDocument, replaceGraph_eq]
      exact .imported document
  | loadWorkflow id service =>
      rw [perform, loadWorkflow, Dialogue.run_ask]
      cases hstored : service (.load id) with
      | ok stored =>
          simp only [Dialogue.run_done, replaceGraph_eq]
          exact .loaded hstored
      | error e => exact .failed ⟨_, rfl⟩ nofun

end Gives

/-- Operations one after the other: what each of them answered, and all the events. -/
def performAll (s : Session) : List Move → Step (List ((move : Move) × move.Answer))
  | [] => s.stay []
  | move :: rest =>
    let first := s.perform move
    let later := first.session.performAll rest
    { answer := ⟨move, first.answer⟩ :: later.answer
      session := later.session
      events := first.events ++ later.events }

theorem performAll_append (s : Session) (early late : List Move) :
    s.performAll (early ++ late) =
      let before := s.performAll early
      let after := before.session.performAll late
      { answer := before.answer ++ after.answer
        session := after.session
        events := before.events ++ after.events } := by
  induction early generalizing s with
  | nil => rfl
  | cons move rest ih =>
      simp only [List.cons_append, performAll, ih, List.append_assoc]

end NodeCanvas.Session
