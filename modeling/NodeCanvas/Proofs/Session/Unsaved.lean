import NodeCanvas.Proofs.Plan.Congruence
import NodeCanvas.Proofs.Session.Submission

/-!
Work in panels that is not saved. No other operation looks at the open panel, at the choices that
were fetched for it or at what the graph remembers of it: with and without such work a session
ends with the same graph, answers everything else in the same way and tells the same of it.
-/
namespace NodeCanvas

namespace Graph

section ClosePanel

/-! Operations on a graph whose panel is closed. -/

variable (g : Graph)

theorem addFrom_closePanel (catalog : Catalog) (key : String) (token : Token) :
    g.closePanel.addFrom catalog key token =
      (g.addFrom catalog key token).map fun added => (added.1, added.2.closePanel) := by
  unfold addFrom
  cases catalog.get? key <;> rfl

theorem delete?_closePanel (id : String) :
    g.closePanel.delete? id = (g.delete? id).map closePanel := by
  unfold delete?
  show (if g.hasNode id then _ else _) = _
  cases g.hasNode id with
  | true => simp [closePanel]
  | false => rfl

theorem connect_closePanel (connection : Connection) (token : Token) :
    g.closePanel.connect connection token =
      (g.connect connection token).map fun made => (made.1, made.2.closePanel) := by
  unfold connect
  show (if !g.hasNode connection.source then _ else if !g.hasNode connection.target then _ else _)
    = _
  cases g.hasNode connection.source with
  | false => rfl
  | true => cases g.hasNode connection.target <;> rfl

theorem removeEdge?_closePanel (id : String) :
    g.closePanel.removeEdge? id = (g.removeEdge? id).map closePanel := by
  unfold removeEdge?
  show (if (g.edge? id).isSome then _ else _) = _
  cases (g.edge? id).isSome <;> rfl

theorem change?_closePanel (id : String) (change : Node → Node) :
    g.closePanel.change? id change = (g.change? id change).map closePanel := by
  unfold change?
  show (if g.hasNode id then _ else _) = _
  cases g.hasNode id <;> rfl

theorem move?_closePanel (id : String) (position : Position) :
    g.closePanel.move? id position = (g.move? id position).map closePanel :=
  g.change?_closePanel id _

theorem annotateAll_closePanel (summary : Projection) (entries : List (String × Annotations)) :
    g.closePanel.annotateAll summary entries =
      ((g.annotateAll summary entries).1, (g.annotateAll summary entries).2.closePanel) := by
  induction entries generalizing g summary with
  | nil => rfl
  | cons entry rest ih =>
      rw [annotateAll, annotateAll, annotate?, change?_closePanel, ← annotate?]
      cases g.annotate? entry.1 entry.2 with
      | some after => exact ih after _
      | none => exact ih g _

theorem project_closePanel (report : RunReport) :
    g.closePanel.project report = ((g.project report).1, (g.project report).2.closePanel) :=
  g.clearAnnotations.annotateAll_closePanel _ _

end ClosePanel

end Graph

theorem Staging.merge?_closePanel (s : Staging) (g : Graph) (id : String) (values : Parameters) :
    s.merge? g.closePanel id values =
      (s.merge? g id values).map fun merged => (merged.1, merged.2.closePanel) := by
  unfold merge? Graph.updateParameters?
  rw [g.change?_closePanel]
  cases g.change? id fun n => { n with parameters := n.parameters.update values } <;> rfl

/-- The event tells of a panel, or of what was done in it. -/
def Event.isOfPanelWork : Event → Bool
  | .panelOpened _ | .panelClosed .. | .fieldsReset .. => true
  | _ => false

/-- What is told besides panels. -/
def Event.aside (events : List Event) : List Event := events.filter fun e => !e.isOfPanelWork

namespace Session

/-- The operation opens, changes or gives up a panel. -/
def Move.isPanelWork : Move → Bool
  | .openPanel _ | .editPanel .. | .togglePanelGroup _ | .resolvePanel _ | .closePanel => true
  | _ => false

/-- The session as it is without its panel, and without the choices that were fetched for it. -/
def bare (s : Session) : Session :=
  { s with graph := s.graph.closePanel, choices := {}, panel := none }

theorem aside_abandoned (s : Session) (which : Form → Bool) (events : List Event) :
    Event.aside (s.abandoned which ++ events) = Event.aside events := by
  cases hpanel : s.panel with
  | none => rw [abandoned_of_none hpanel, List.nil_append]
  | some form =>
      rw [abandoned_of_some hpanel]
      split <;> rfl

theorem aside_resetEvents (form : Form) (reset : List String) :
    Event.aside (resetEvents form reset) = [] := by
  unfold resetEvents
  split <;> rfl

theorem outcomeOf_closePanel (g : Graph) (result : Except Failure RunReport) :
    outcomeOf g.closePanel result =
      ((outcomeOf g result).1, (outcomeOf g result).2.closePanel) := by
  cases result with
  | error e => rfl
  | ok report =>
      unfold outcomeOf
      simp only [g.project_closePanel]
      split <;> rfl

end Session

def Step.bare {α : Type} (step : Step α) : Step α :=
  { step with session := step.session.bare, events := Event.aside step.events }

namespace Session

/-- Work in a panel touches nothing else, and tells of nothing else. -/
theorem Gives.bare_of_isPanelWork {s : Session} {move : Move} {step : Step move.Answer}
    (h : s.Gives move step) (work : move.isPanelWork = true) :
    step.session.bare = s.bare ∧ Event.aside step.events = [] := by
  cases h with
  | failed | groupToggled | unresolved | notOpen | panelClosed => exact ⟨rfl, rfl⟩
  | panelOpened => exact ⟨rfl, aside_abandoned s _ _⟩
  | edited | resolved => exact ⟨rfl, aside_resetEvents _ _⟩
  | _ => cases work

section Bare

variable (s : Session)

theorem plan_bare : s.bare.plan = s.plan := rfl

theorem replaceGraph_bare (graph : Graph) :
    (s.bare.replaceGraph graph).bare = (s.replaceGraph graph).bare := by
  simp only [replaceGraph_eq, Step.bare, aside_abandoned]
  rfl

theorem deleteNode_bare (id : String) :
    (s.bare.deleteNode id).bare = (s.deleteNode id).bare := by
  have hdelete := s.graph.delete?_closePanel id
  cases hgraph : s.graph.delete? id with
  | none =>
      rw [hgraph] at hdelete
      have hbare : s.bare.deleteNode id = s.bare.stay false := by
        rw [deleteNode, show s.bare.graph.delete? id = none from hdelete]
      rw [hbare, deleteNode, hgraph]
      rfl
  | some graph =>
      rw [hgraph] at hdelete
      rw [s.deleteNode_eq hgraph, s.bare.deleteNode_eq hdelete]
      simp only [Step.bare, aside_abandoned]
      rfl

theorem run_bare (service : Service.Answers) :
    (s.bare.run.run service).1.bare = (s.run.run service).1.bare := by
  cases hrunning : s.running with
  | true =>
      rw [run_of_running service hrunning, run_of_running (s := s.bare) service hrunning]
      rfl
  | false =>
      cases hplan : s.plan with
      | error reason =>
          rw [run_of_rejected service hrunning hplan,
            run_of_rejected (s := s.bare) service hrunning hplan]
          rfl
      | ok plan =>
          rw [s.run_eq service hrunning hplan, s.bare.run_eq service hrunning hplan]
          have hout : outcomeOf s.bare.graph (service (.run plan)) = _ :=
            outcomeOf_closePanel s.graph (service (.run plan))
          rw [hout]
          rfl

/-- An operation that is no work in a panel, and does not save one, does not look at the panel. -/
theorem perform_bare {move : Move} (other : move.isPanelWork = false)
    (unsaved : move ≠ .savePanel) : (s.bare.perform move).bare = (s.perform move).bare := by
  cases move with
  | openPanel | togglePanelGroup | editPanel | resolvePanel | closePanel => cases other
  | savePanel => exact absurd rfl unsaved
  | refreshCatalog service =>
      simp only [perform, refreshCatalog, Dialogue.run_ask, Dialogue.run_done]
      cases service .listing <;> rfl
  | addNode key token =>
      have hadd : s.bare.graph.addFrom s.bare.catalog key token = _ :=
        s.graph.addFrom_closePanel s.catalog key token
      rw [perform, perform, addNode, addNode, hadd]
      cases s.graph.addFrom s.catalog key token <;> rfl
  | deleteNode id => exact s.deleteNode_bare id
  | connect connection token =>
      have hconnect : s.bare.graph.connect connection token = _ :=
        s.graph.connect_closePanel connection token
      rw [perform, perform, connect, connect, hconnect]
      cases s.graph.connect connection token <;> rfl
  | removeEdge id =>
      have hremove : s.bare.graph.removeEdge? id = _ := s.graph.removeEdge?_closePanel id
      rw [perform, perform, removeEdge, removeEdge, hremove]
      cases s.graph.removeEdge? id <;> rfl
  | updateParameters id values =>
      have hmerge : s.bare.staging.merge? s.bare.graph id values = _ :=
        s.staging.merge?_closePanel s.graph id values
      rw [perform, perform, updateParameters, updateParameters, hmerge]
      cases s.staging.merge? s.graph id values <;> rfl
  | moveNode id position =>
      have hmove : s.bare.graph.move? id position = _ := s.graph.move?_closePanel id position
      rw [perform, perform, moveNode, moveNode, hmove]
      cases s.graph.move? id position <;> rfl
  | beginRun =>
      have hwarnings : s.bare.graph.warnings = s.graph.warnings :=
        Graph.warnings_eq_of_ids rfl rfl
      rw [perform, perform, beginRun, beginRun, plan_bare, hwarnings]
      show (if s.running then _ else _ : Step _).bare = _
      cases s.running with
      | true => rfl
      | false => cases s.plan <;> rfl
  | finishRun result =>
      have hout : outcomeOf s.bare.graph result = _ := outcomeOf_closePanel s.graph result
      rw [perform, perform, finishRun, finishRun, hout]
      rfl
  | cancelRun =>
      rw [perform, perform, cancelRun, cancelRun]
      show (if s.running then _ else _ : Step _).bare = _
      cases s.running <;> rfl
  | run service => exact s.run_bare service
  | importDocument document => exact s.replaceGraph_bare document.toGraph
  | loadWorkflow id service =>
      simp only [perform, loadWorkflow, Dialogue.run_ask]
      cases service (.load id) with
      | error e => rfl
      | ok stored =>
          simp only [Dialogue.run_done, replaceGraph_eq, Step.bare, aside_abandoned]
          rfl

theorem document_bare (name : Option String) (now : Instant) :
    s.bare.document name now = s.document name now := rfl

theorem saveWorkflow_bare (name : String) : s.bare.saveWorkflow name = s.saveWorkflow name := rfl

end Bare

/-- Sessions that differ in their panels alone have everything else in common. -/
theorem parts_of_bare {s t : Session} (h : s.bare = t.bare) :
    s.graph.nodes = t.graph.nodes ∧ s.graph.edges = t.graph.edges ∧ s.staging = t.staging ∧
    s.catalog = t.catalog ∧ s.running = t.running ∧ s.highlight = t.highlight := by
  injection h with hcatalog hgraph hstaging _ _ hhighlight hrunning
  injection hgraph with hnodes hedges
  exact ⟨hnodes, hedges, hstaging, hcatalog, hrunning, hhighlight⟩

/-- Sessions that differ in their panels alone give the same, but for panels. -/
theorem perform_congr {s t : Session} (h : s.bare = t.bare) {move : Move}
    (other : move.isPanelWork = false) (unsaved : move ≠ .savePanel) :
    (s.perform move).bare = (t.perform move).bare := by
  rw [← s.perform_bare other unsaved, h, t.perform_bare other unsaved]

/-- Of two sessions that differ in their panels alone, one goes through all the operations and the
other leaves out the work in panels. -/
theorem performAll_bare {s t : Session} (h : s.bare = t.bare) (moves : List Move)
    (unsaved : Move.savePanel ∉ moves) :
    let all := s.performAll moves
    let rest := t.performAll (moves.filter fun move => !move.isPanelWork)
    rest.session.bare = all.session.bare ∧
    rest.answer = all.answer.filter (fun answered => !answered.1.isPanelWork) ∧
    Event.aside rest.events = Event.aside all.events := by
  induction moves generalizing s t with
  | nil => exact ⟨h.symm, rfl, rfl⟩
  | cons move later ih =>
      -- Work in a panel takes only one of the sessions on, anything else takes both.
      obtain ⟨hmove, hlater⟩ := List.ne_and_not_mem_of_not_mem_cons unsaved
      cases work : move.isPanelWork with
      | true =>
          obtain ⟨hsession, htold⟩ := (s.gives_perform move).bare_of_isPanelWork work
          obtain ⟨hbare, hanswer, hevents⟩ := ih (hsession.trans h) hlater
          rw [List.filter_cons_of_neg (by simp [work])]
          refine ⟨hbare, ?_, ?_⟩
          · simp [performAll, work, hanswer]
          · simp only [performAll, Event.aside, List.filter_append] at htold hevents ⊢
            rw [htold, hevents, List.nil_append]
      | false =>
          have hstep := perform_congr h work (Ne.symm hmove)
          obtain ⟨hbare, hanswer, hevents⟩ := ih (congrArg Step.session hstep) hlater
          have hfirst : (s.perform move).bare.answer = (t.perform move).bare.answer := by rw [hstep]
          have htold : (s.perform move).bare.events = (t.perform move).bare.events := by rw [hstep]
          simp only [Step.bare] at hfirst htold
          rw [List.filter_cons_of_pos (by simp [work])]
          refine ⟨hbare, ?_, ?_⟩
          · simp [performAll, work, hanswer, hfirst]
          · simp only [performAll, Event.aside, List.filter_append] at htold hevents ⊢
            rw [htold, hevents]

/-- Whatever is done in panels, as long as no panel is saved: had it not been done, the session
would have the same nodes, edges, staged parameters and catalog, the same run on its way and
highlighted, everything else would have been answered in the same way, and apart from panels the
same would have been told in the same order. What is planned, exported and kept is the same too. -/
theorem unsaved_panel_work_invisible (s : Session) (moves : List Move)
    (unsaved : Move.savePanel ∉ moves) :
    let all := s.performAll moves
    let rest := s.performAll (moves.filter fun move => !move.isPanelWork)
    rest.session.graph.nodes = all.session.graph.nodes ∧
    rest.session.graph.edges = all.session.graph.edges ∧
    rest.session.staging = all.session.staging ∧
    rest.session.catalog = all.session.catalog ∧
    rest.session.running = all.session.running ∧
    rest.session.highlight = all.session.highlight ∧
    rest.answer = all.answer.filter (fun answered => !answered.1.isPanelWork) ∧
    Event.aside rest.events = Event.aside all.events ∧
    rest.session.plan = all.session.plan ∧
    (∀ name now, rest.session.document name now = all.session.document name now) ∧
    ∀ name, rest.session.saveWorkflow name = all.session.saveWorkflow name := by
  intro all rest
  obtain ⟨hbare, hanswer, hevents⟩ := performAll_bare (rfl : s.bare = s.bare) moves unsaved
  have hbare : rest.session.bare = all.session.bare := hbare
  obtain ⟨hnodes, hedges, hstaging, hcatalog, hrunning, hhighlight⟩ := parts_of_bare hbare
  refine ⟨hnodes, hedges, hstaging, hcatalog, hrunning, hhighlight, hanswer, hevents, ?_, ?_, ?_⟩
  · rw [← rest.session.plan_bare, hbare, plan_bare]
  · intro name now
    rw [← rest.session.document_bare, hbare, document_bare]
  · intro name
    rw [← rest.session.saveWorkflow_bare, hbare, saveWorkflow_bare]

def halfway : List Move :=
  [.openPanel "q", .editPanel "query" (.text "Why?"), .beginRun, .deleteNode "r"]

theorem halfway_invisible :
    Move.savePanel ∉ halfway ∧
    (halfway.filter fun move => !move.isPanelWork) = [.beginRun, .deleteNode "r"] ∧
    let all := started.performAll halfway
    let rest := started.performAll [.beginRun, .deleteNode "r"]
    all.session.panel.isSome = true ∧ rest.session.panel.isSome = false ∧
    all.session.running = true ∧ rest.session.running = true ∧
    rest.session.graph.nodes = all.session.graph.nodes ∧
    rest.session.staging = all.session.staging ∧
    rest.answer = all.answer.filter (fun answered => !answered.1.isPanelWork) ∧
    Event.aside rest.events = Event.aside all.events ∧
    rest.session.document none ⟨0⟩ = all.session.document none ⟨0⟩ := by
  have unsaved : Move.savePanel ∉ halfway := by simp [halfway]
  obtain ⟨hnodes, -, hstaging, -, hrunning, -, hanswer, hevents, -, hdocument, -⟩ :=
    started.unsaved_panel_work_invisible halfway unsaved
  have hbusy : (started.performAll halfway).session.running = true := by decide +kernel
  exact ⟨unsaved, rfl, by decide +kernel, by decide +kernel, hbusy, hrunning.trans hbusy, hnodes,
    hstaging, hanswer, hevents, hdocument none ⟨0⟩⟩

end Session

end NodeCanvas
