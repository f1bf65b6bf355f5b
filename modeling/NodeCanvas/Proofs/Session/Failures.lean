import NodeCanvas.Proofs.Session.OpenPanel
import NodeCanvas.Proofs.Session.Runs
import NodeCanvas.Proofs.Session.Submission

namespace NodeCanvas.Session

/-- The outcome of a run that was begun is neither of those of a run that was not. -/
theorem outcomeOf_not_refused (g : Graph) (result : Except Failure RunReport) :
    (∀ reason, (outcomeOf g result).1 ≠ .invalid reason) ∧
      (outcomeOf g result).1 ≠ .alreadyRunning := by
  cases result with
  | error e => exact ⟨nofun, nofun⟩
  | ok report =>
      unfold outcomeOf
      dsimp only
      split <;> exact ⟨nofun, nofun⟩

theorem PanelAgrees.commit?_ne_none {s : Session} (h : s.PanelAgrees) {form : Form}
    (hform : s.panel = some form) :
    s.staging.commit? s.graph.closePanel form.nodeId form.values ≠ none := by
  have hthere : form.nodeId ∈ s.graph.closePanel.nodeIds := h.mem_nodeIds hform
  rw [s.staging.commit?_of_mem hthere]
  exact Option.some_ne_none _

theorem Gives.unchanged {s : Session} {move : Move} {step : Step move.Answer}
    (h : s.Gives move step) (hs : s.PanelAgrees) (hfailed : move.Failed step.answer) :
    step.session = s ∧
    ((∀ service, move ≠ .refreshCatalog service) → step.events = []) ∧
    ∀ service, move = .refreshCatalog service →
      ∃ e, service .listing = .error e ∧ step.events = [.catalogFetchFailed e.message] := by
  cases h with
  | failed _ hmove =>
      exact ⟨rfl, fun _ => rfl, fun service hservice => absurd hservice (hmove service)⟩
  | unlisted h =>
      refine ⟨rfl, fun hmove => absurd rfl (hmove _), ?_⟩
      rintro _ ⟨⟩
      exact ⟨_, h, rfl⟩
  -- The answers of all others are those of a success, or of what cannot fail.
  | listed | added | connected | begun | loaded =>
      obtain ⟨_, hanswer⟩ := hfailed
      cases hanswer
  | deleted | edgeRemoved | updated | moved | panelOpened | groupToggled | panelSaved =>
      cases hfailed
  | edited => exact absurd rfl hfailed
  | unresolved | resolved | notOpen | panelClosed | finished | notRunning | cancelled | imported =>
      exact hfailed.elim
  | ran service =>
      obtain ⟨hinvalid, hrunning⟩ := outcomeOf_not_refused s.graph (service (.run _))
      rcases hfailed with ⟨reason, hanswer⟩ | hanswer
      · exact absurd hanswer (hinvalid reason)
      · exact absurd hanswer hrunning
  | panelLost h hcommit => exact absurd hcommit (hs.commit?_ne_none h)

/-- In every session that operations can reach, an operation that answers that it failed has left
the catalog, the graph, what is staged, the choices, the panel and the run as they were. It sends
no event, unless the catalog could not be fetched: this is told once, with the reason. -/
theorem Reachable.unchanged_of_failed {s : Session} (h : s.Reachable) (move : Move)
    (hfailed : move.Failed (s.perform move).answer) :
    (s.perform move).session = s ∧
    ((∀ service, move ≠ .refreshCatalog service) → (s.perform move).events = []) ∧
    ∀ service, move = .refreshCatalog service →
      ∃ e, service .listing = .error e ∧
        (s.perform move).events = [.catalogFetchFailed e.message] :=
  (s.gives_perform move).unchanged h.panelAgrees hfailed

def busy : Session := (revised.perform .beginRun).session

theorem busy_reachable : busy.Reachable := .step _ revised_reachable trivial

/-- No other run is begun, no panel of a node that is not there is opened in place of the open
one, and no catalog comes of a service that has none. -/
theorem busy_unchanged_of_failed :
    busy.Reachable ∧ busy.running = true ∧ busy.panel.isSome = true ∧
    (busy.perform .beginRun).session = busy ∧ (busy.perform .beginRun).events = [] ∧
    (busy.perform (.openPanel "gone")).session = busy ∧
    (busy.perform (.openPanel "gone")).events = [] ∧
    (busy.perform (.refreshCatalog (runService (.ok {})))).session = busy ∧
    ∃ message, (busy.perform (.refreshCatalog (runService (.ok {})))).events =
      [.catalogFetchFailed message] := by
  have hrunning : busy.running = true := by decide +kernel
  have hbegin : Move.beginRun.Failed (busy.perform .beginRun).answer :=
    ⟨.alreadyRunning, congrArg Step.answer (beginRun_of_running hrunning)⟩
  have hopen : (Move.openPanel "gone").Failed (busy.perform (.openPanel "gone")).answer := by
    show (busy.openPanel "gone").answer = false
    decide +kernel
  have hrefresh : (Move.refreshCatalog (runService (.ok {}))).Failed
      (busy.perform (.refreshCatalog (runService (.ok {})))).answer := ⟨_, rfl⟩
  obtain ⟨hbegun, hbegunEvents, -⟩ := busy_reachable.unchanged_of_failed .beginRun hbegin
  obtain ⟨hopened, hopenedEvents, -⟩ := busy_reachable.unchanged_of_failed _ hopen
  obtain ⟨hrefreshed, -, htold⟩ := busy_reachable.unchanged_of_failed _ hrefresh
  obtain ⟨e, -, hevents⟩ := htold _ rfl
  exact ⟨busy_reachable, hrunning, by decide +kernel, hbegun, hbegunEvents nofun, hopened,
    hopenedEvents nofun, hrefreshed, e.message, hevents⟩

end NodeCanvas.Session
