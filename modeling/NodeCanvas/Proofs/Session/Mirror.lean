import NodeCanvas.Proofs.Session.OpenPanel
import NodeCanvas.Proofs.Session.Panel
import NodeCanvas.Proofs.Session.Runs
import NodeCanvas.Proofs.Session.Submission

namespace NodeCanvas

namespace Event

/-- The event tells that a run began or ended. -/
def isOfRun : Event → Bool
  | .runStarted .. | .runFinished .. => true
  | _ => false

/-- Ids of nodes, as they are after what the event tells. -/
def replay (ids : List String) : Event → List String
  | .graphChanged (.nodeAdded id _) => ids ++ [id]
  | .graphChanged (.nodeDeleted id) => ids.erase id
  | _ => ids

/-- Of two stretches of events the later one has the last word, if it has any. -/
theorem getLast?_filter_append (kind : Event → Bool) (past events : List Event) :
    ((past ++ events).filter kind).getLast? =
      (events.filter kind).getLast?.or (past.filter kind).getLast? := by
  rw [List.filter_append, List.getLast?_append]

end Event

namespace Session

section Events

variable (s : Session) (which : Form → Bool)

theorem abandoned_eq :
    s.abandoned which = [] ∨
      ∃ form, s.panel = some form ∧ s.abandoned which = [.panelClosed form.nodeId false] := by
  cases hpanel : s.panel with
  | none => exact .inl (abandoned_of_none hpanel which)
  | some form =>
      rw [abandoned_of_some hpanel]
      split
      · exact .inr ⟨form, rfl, rfl⟩
      · exact .inl rfl

theorem replay_abandoned (ids : List String) :
    (s.abandoned which).foldl Event.replay ids = ids := by
  rcases s.abandoned_eq which with hnone | ⟨form, -, hsome⟩
  · rw [hnone, List.foldl_nil]
  · rw [hsome]
    rfl

theorem isOfRun_abandoned : (s.abandoned which).filter Event.isOfRun = [] := by
  rcases s.abandoned_eq which with hnone | ⟨form, -, hsome⟩
  · rw [hnone, List.filter_nil]
  · rw [hsome]
    rfl

theorem replay_resetEvents (form : Form) (reset ids : List String) :
    (resetEvents form reset).foldl Event.replay ids = ids := by
  unfold resetEvents
  split <;> rfl

theorem isOfPanel_resetEvents (form : Form) (reset : List String) :
    (resetEvents form reset).filter Event.isOfPanel = [] := by
  unfold resetEvents
  split <;> rfl

theorem isOfRun_resetEvents (form : Form) (reset : List String) :
    (resetEvents form reset).filter Event.isOfRun = [] := by
  unfold resetEvents
  split <;> rfl

end Events

section Gives

variable {s : Session} {move : Move} {step : Step move.Answer}

/-- An operation leaves the panel open that is open and tells nothing of it, or the last that it
tells is the panel that is open then, or it is that none is. -/
theorem Gives.panel_told (h : s.Gives move step) :
    (step.session.panel.map (·.nodeId) = s.panel.map (·.nodeId) ∧
      step.events.filter Event.isOfPanel = []) ∨
    (∃ id, step.session.panel.map (·.nodeId) = some id ∧
      (step.events.filter Event.isOfPanel).getLast? = some (.panelOpened id)) ∨
    (step.session.panel = none ∧
      ∃ id saved, (step.events.filter Event.isOfPanel).getLast? =
        some (.panelClosed id saved)) := by
  cases h with
  | failed | unlisted | listed | added | connected | edgeRemoved | updated | moved | unresolved
  | notOpen | begun | finished | notRunning | cancelled | ran => exact .inl ⟨rfl, rfl⟩
  | @deleted id graph =>
      cases hpanel : s.panel with
      | none =>
          rw [abandoned_of_none hpanel]
          exact .inl ⟨rfl, rfl⟩
      | some form =>
          rw [abandoned_of_some hpanel]
          by_cases hid : form.nodeId = id
          · refine .inr (.inr ⟨by simp [hid], form.nodeId, false, ?_⟩)
            simp [hid, Event.isOfPanel]
          · refine .inl ⟨by simp [hid], ?_⟩
            simp [hid, Event.isOfPanel]
  | @panelOpened id node =>
      refine .inr (.inl ⟨id, rfl, ?_⟩)
      rw [Event.getLast?_filter_append]
      rfl
  | groupToggled h htoggle =>
      obtain rfl := Form.toggleGroup?_eq_some htoggle
      exact .inl ⟨by rw [h]; rfl, rfl⟩
  | edited h hedit =>
      obtain ⟨_, value, -, -, rfl⟩ := Form.edit_eq_some hedit
      refine .inl ⟨?_, isOfPanel_resetEvents _ _⟩
      rw [h, Option.map_some, Option.map_some, Form.nodeId_reconcile]
      rfl
  | resolved service h =>
      refine .inl ⟨?_, isOfPanel_resetEvents _ _⟩
      rw [h, Form.resolve_run, Option.map_some, Option.map_some, Form.nodeId_reconcile]
  | @panelClosed form => exact .inr (.inr ⟨rfl, form.nodeId, false, rfl⟩)
  | @panelSaved form => exact .inr (.inr ⟨rfl, form.nodeId, true, rfl⟩)
  | @panelLost form => exact .inr (.inr ⟨rfl, form.nodeId, false, rfl⟩)
  | imported | loaded =>
      cases hpanel : s.panel with
      | none =>
          rw [abandoned_of_none hpanel]
          exact .inl ⟨rfl, rfl⟩
      | some form =>
          rw [abandoned_of_some hpanel]
          exact .inr (.inr ⟨rfl, form.nodeId, false, rfl⟩)

/-- An operation leaves a run on its way, or none, and tells nothing of runs, or the last that it
tells is whether one is on its way then. -/
theorem Gives.run_told (h : s.Gives move step) :
    (step.session.running = s.running ∧ step.events.filter Event.isOfRun = []) ∨
    (step.session.running = true ∧ ∃ nodeIds edgeIds,
      (step.events.filter Event.isOfRun).getLast? = some (.runStarted nodeIds edgeIds)) ∨
    (step.session.running = false ∧ ∃ success error,
      (step.events.filter Event.isOfRun).getLast? = some (.runFinished success error)) := by
  cases h with
  | failed | unlisted | listed | added | connected | edgeRemoved | updated | moved | groupToggled
  | unresolved | notOpen | panelClosed | panelSaved | panelLost | notRunning =>
      exact .inl ⟨rfl, rfl⟩
  | deleted | panelOpened | imported | loaded =>
      refine .inl ⟨rfl, ?_⟩
      rw [List.filter_append, isOfRun_abandoned]
      rfl
  | edited | resolved => exact .inl ⟨rfl, isOfRun_resetEvents _ _⟩
  | begun => exact .inr (.inl ⟨rfl, _, _, rfl⟩)
  | finished | cancelled | ran => exact .inr (.inr ⟨rfl, _, _, rfl⟩)

/-- Something is highlighted just while a run is on its way. -/
theorem Gives.shown (h : s.Gives move step) (hs : s.highlight.isActive = s.running) :
    step.session.highlight.isActive = step.session.running := by
  cases h with
  | begun _ hplan => exact Highlight.isActive_ofGraph (Graph.nodes_ne_nil_of_plan hplan)
  | finished | cancelled | ran => rfl
  | _ => exact hs

/-- Unless it replaces the graph, an operation tells all that becomes of the ids of the nodes. -/
theorem Gives.nodeIds_told (h : s.Gives move step)
    (kept : ∀ e ∈ step.events, e ≠ .graphChanged .replaced) :
    step.session.graph.nodeIds = step.events.foldl Event.replay s.graph.nodeIds := by
  cases h with
  | failed | unlisted | listed | groupToggled | unresolved | notOpen | panelClosed | panelLost
  | begun | notRunning | cancelled => rfl
  | added h =>
      obtain ⟨type, -, heq⟩ := Graph.addFrom_eq_ok h
      obtain ⟨rfl, rfl⟩ := Prod.mk.inj heq
      exact List.map_append ..
  | deleted h =>
      rw [List.foldl_append, replay_abandoned]
      obtain ⟨-, rfl⟩ := Graph.delete?_eq_some h
      exact Graph.ids_eraseP s.graph.nodes _
  | connected h =>
      obtain ⟨-, -, rfl⟩ := Graph.connect_eq_ok h
      rfl
  | edgeRemoved h =>
      obtain ⟨-, rfl⟩ := Graph.removeEdge?_eq_some h
      rfl
  | updated h => exact Graph.nodeIds_change (Staging.merge?_eq_some h).1 fun _ => rfl
  | moved h => exact Graph.nodeIds_change h fun _ => rfl
  | panelOpened h =>
      rw [List.foldl_append, replay_abandoned]
      rfl
  | edited | resolved => exact (replay_resetEvents _ _ _).symm
  | panelSaved h hcommit =>
      have hreplace := (Staging.commit?_eq_some hcommit).1
      exact Graph.nodeIds_change (g := s.graph.closePanel) hreplace fun _ => rfl
  | finished | ran => exact (outcomeOf_sameBody s.graph _).nodeIds_eq
  | imported | loaded =>
      exact absurd rfl (kept _ (List.mem_append_right _ (List.mem_singleton.mpr rfl)))

end Gives

/-- What the events so far tell of a session is so. -/
structure Mirrored (s : Session) (events : List Event) : Prop where
  panel : ∀ id, s.panel.map (·.nodeId) = some id ↔
    (events.filter Event.isOfPanel).getLast? = some (.panelOpened id)
  running : s.running = true ↔ ∃ nodeIds edgeIds,
    (events.filter Event.isOfRun).getLast? = some (.runStarted nodeIds edgeIds)
  shown : s.highlight.isActive = s.running

theorem mirrored_opened (catalog : Catalog) (rules : Rules) :
    (opened catalog rules).Mirrored [] where
  panel := by simp [opened]
  running := by simp [opened]
  shown := rfl

theorem Mirrored.after {s : Session} {past : List Event} (hs : s.Mirrored past) {move : Move}
    {step : Step move.Answer} (h : s.Gives move step) :
    step.session.Mirrored (past ++ step.events) where
  panel := by
    intro id
    rw [Event.getLast?_filter_append]
    rcases h.panel_told with ⟨hkept, hsilent⟩ | ⟨other, hopen, htold⟩ |
      ⟨hnone, other, saved, htold⟩
    · rw [hkept, hsilent]
      exact hs.panel id
    · rw [hopen, htold]
      simp
    · rw [hnone, htold]
      simp
  running := by
    rw [Event.getLast?_filter_append]
    rcases h.run_told with ⟨hkept, hsilent⟩ | ⟨hbegun, nodeIds, edgeIds, htold⟩ |
      ⟨hended, success, error, htold⟩
    · rw [hkept, hsilent]
      exact hs.running
    · rw [hbegun, htold]
      simp
    · rw [hended, htold]
      simp
  shown := h.shown hs.shown

theorem Mirrored.performAll {s : Session} {past : List Event} (hs : s.Mirrored past)
    (moves : List Move) :
    (s.performAll moves).session.Mirrored (past ++ (s.performAll moves).events) := by
  induction moves generalizing s past with
  | nil =>
      rw [Session.performAll, stay, List.append_nil]
      exact hs
  | cons move rest ih =>
      rw [Session.performAll, ← List.append_assoc]
      exact ih (hs.after (s.gives_perform move))

theorem nodeIds_performAll (s : Session) (moves : List Move)
    (kept : ∀ e ∈ (s.performAll moves).events, e ≠ .graphChanged .replaced) :
    (s.performAll moves).session.graph.nodeIds =
      (s.performAll moves).events.foldl Event.replay s.graph.nodeIds := by
  induction moves generalizing s with
  | nil => rfl
  | cons move rest ih =>
      rw [performAll] at kept ⊢
      have hfirst := (s.gives_perform move).nodeIds_told fun e he =>
        kept e (List.mem_append_left _ he)
      rw [List.foldl_append, ← hfirst]
      exact ih _ fun e he => kept e (List.mem_append_right _ he)

/-- Whatever was done with a session since its start: the panel that is open is the one of the last
event of panels, if it tells that one was opened, a run is on its way and shown just if the last
event of runs tells that one began, and the ids of the nodes come from those that were there when
the graph was last replaced, or from none if it never was, by adding and deleting nodes as the
events since then tell. -/
theorem events_mirror_session (catalog : Catalog) (rules : Rules) (moves : List Move) :
    let now := (opened catalog rules).performAll moves
    (∀ id, (∃ form, now.session.panel = some form ∧ form.nodeId = id) ↔
      (now.events.filter Event.isOfPanel).getLast? = some (.panelOpened id)) ∧
    (now.session.running = true ↔ now.session.highlight.isActive = true) ∧
    (now.session.running = true ↔ ∃ nodeIds edgeIds,
      (now.events.filter Event.isOfRun).getLast? = some (.runStarted nodeIds edgeIds)) ∧
    ((∀ e ∈ now.events, e ≠ .graphChanged .replaced) →
      now.session.graph.nodeIds = now.events.foldl Event.replay []) ∧
    ∀ early move late, moves = early ++ move :: late →
      let before := (opened catalog rules).performAll early
      let replaced := before.session.perform move
      let since := replaced.session.performAll late
      replaced.events.getLast? = some (.graphChanged .replaced) →
      (∀ e ∈ since.events, e ≠ .graphChanged .replaced) →
      now.session.graph.nodeIds =
        since.events.foldl Event.replay replaced.session.graph.nodeIds := by
  intro now
  have hmirrored := (mirrored_opened catalog rules).performAll moves
  rw [List.nil_append] at hmirrored
  refine ⟨fun id => ?_, ?_, hmirrored.running, nodeIds_performAll _ moves, ?_⟩
  · rw [← hmirrored.panel id, Option.map_eq_some_iff]
  · rw [hmirrored.shown]
  · rintro early move late rfl before replaced since - hkept
    have hnow : now.session = since.session := by
      show ((opened catalog rules).performAll (early ++ move :: late)).session = since.session
      rw [performAll_append]
      rfl
    rw [hnow]
    exact nodeIds_performAll _ late hkept

end Session

end NodeCanvas
