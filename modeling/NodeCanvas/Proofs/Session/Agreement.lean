import NodeCanvas.Proofs.Session.Moves

namespace NodeCanvas.Session

theorem Becomes.staging_agrees {s after : Session} {move : Move} (h : s.Becomes move after)
    (fresh : move.Fresh s) (hgraph : s.graph.WellFormed) (hs : s.staging.Agrees s.graph) :
    after.staging.Agrees after.graph := by
  cases h with
  | same | catalog | groupToggled | edited | resolved | begun | cancelled => exact hs
  | added h => exact hs.addFrom h (fresh _ _ h).2
  | deleted h => exact hs.of_covers (.delete h)
  | connected h => exact hs.of_covers (.connect h)
  | edgeRemoved h => exact hs.of_covers (.removeEdge h)
  | updated h => exact hs.merge hgraph h
  | moved h => exact hs.of_covers (.change h fun _ => ⟨rfl, rfl⟩)
  | panelOpened | panelClosed | panelLost => exact hs
  | panelSaved h hcommit =>
      have hclosed : s.staging.Agrees s.graph.closePanel := hs
      exact hclosed.commit hgraph.closePanel hcommit
  | finished | ran =>
      exact outcomeOf_graph hs (fun report => hs.of_covers (.project _ report)) _
  | imported | loaded => exact Staging.agrees_ofGraph (Graph.wellFormed_ofParts _ _).distinct

theorem Reachable.agrees {s : Session} (h : s.Reachable) : s.staging.Agrees s.graph := by
  induction h with
  | opened catalog rules => simp [Staging.Agrees, Session.opened]
  | step move h fresh ih =>
      exact (becomes_perform _ move).staging_agrees fresh h.graph_reachable.wellFormed ih

/-- In every session that operations can reach, whatever is staged for a node of the graph is
what the node has, and the panel of the node opens with just that. -/
theorem Reachable.staged_eq_parameters {s : Session} (h : s.Reachable) :
    ∀ n ∈ s.graph.nodes,
      (s.staging.get? n.id = none ∨ s.staging.get? n.id = some n.parameters) ∧
      (s.openPanel n.id).answer = true ∧
      (s.openPanel n.id).session.panel = some (.ofNode n.id n.type n.parameters) := by
  intro n hn
  have hstaged := h.agrees n hn
  have hfound := Graph.node?_of_mem h.graph_reachable.wellFormed.distinct hn
  obtain ⟨hanswer, hsession⟩ := s.openPanel_of_node hfound
  have hvalues : (s.staging.get? n.id).getD n.parameters = n.parameters := by
    rcases hstaged with hnone | hsome
    · rw [hnone, Option.getD_none]
    · rw [hsome, Option.getD_some]
  refine ⟨hstaged, hanswer, ?_⟩
  rw [hsession, hvalues]

def started : Session :=
  let types := (({} : Catalog).insert Graph.question).insert Graph.reply
  ((opened types .standard).perform (.importDocument (.ofGraph Graph.exchange none ⟨0⟩))).session

def reworked : Session :=
  let deleted := (started.perform (.deleteNode "r")).session
  let values := .ofList [("query", .str "Why?")]
  let updated := (deleted.perform (.updateParameters "q" values)).session
  (updated.perform (.addNode "response_node" ⟨7⟩)).session

theorem started_reachable : started.Reachable := .step _ (.opened _ _) trivial

theorem reworked_reachable : reworked.Reachable := by
  refine .step _ (.step _ (.step _ started_reachable trivial) trivial) ?_
  exact Move.fresh_addNode rfl (by decide +kernel) (by decide +kernel)

theorem reworked_staged_eq_parameters :
    reworked.Reachable ∧ reworked.staging.ids = ["q", "r"] ∧ reworked.graph.nodes.length = 2 ∧
    ∀ n ∈ reworked.graph.nodes,
      (reworked.staging.get? n.id = none ∨ reworked.staging.get? n.id = some n.parameters) ∧
      (reworked.openPanel n.id).answer = true ∧
      (reworked.openPanel n.id).session.panel = some (.ofNode n.id n.type n.parameters) := by
  refine ⟨reworked_reachable, by decide +kernel, by decide +kernel, ?_⟩
  exact reworked_reachable.staged_eq_parameters

end NodeCanvas.Session
