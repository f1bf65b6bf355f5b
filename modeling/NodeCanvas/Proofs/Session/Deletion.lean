import NodeCanvas.Proofs.Session.OpenPanel

namespace NodeCanvas

namespace Graph

/-- The graph without the nodes of an id, the edges at them and their panel. -/
def without (g : Graph) (id : String) : Graph where
  nodes := g.nodes.filter fun n => n.id ≠ id
  edges := g.edges.filter fun e => e.source ≠ id ∧ e.target ≠ id
  panel := if g.panel = some id then none else g.panel

theorem eraseP_eq_filter {nodes : List Node} (h : (nodes.map (·.id)).Nodup) (id : String) :
    (nodes.eraseP fun n => n.id == id) = nodes.filter fun n => n.id ≠ id := by
  induction nodes with
  | nil => rfl
  | cons n rest ih =>
      rw [List.map_cons, List.nodup_cons] at h
      by_cases hid : n.id = id
      · have hrest : ∀ m ∈ rest, decide (m.id ≠ id) = true := by
          intro m hm
          rw [decide_eq_true_iff]
          intro heq
          exact h.1 (List.mem_map.mpr ⟨m, hm, heq.trans hid.symm⟩)
        rw [List.eraseP_cons_of_pos (by simpa using hid),
          List.filter_cons_of_neg (by simpa using hid), List.filter_eq_self.mpr hrest]
      · rw [List.eraseP_cons_of_neg (by simpa using hid),
          List.filter_cons_of_pos (by simpa using hid), ih h.2]

variable {g : Graph} {id : String}

theorem WellFormed.delete?_of_mem (h : g.WellFormed) (hid : id ∈ g.nodeIds) :
    g.delete? id = some (g.without id) := by
  have hedges : (g.edges.filter fun e => e.source != id && e.target != id) =
      g.edges.filter fun e => e.source ≠ id ∧ e.target ≠ id := by
    apply List.filter_congr
    intro e _
    rw [Bool.eq_iff_iff]
    simp
  rw [delete?, if_pos (hasNode_iff.mpr hid), eraseP_eq_filter h.distinct, hedges, without]

theorem delete?_of_not_mem (hid : id ∉ g.nodeIds) : g.delete? id = none :=
  if_neg fun hnode => hid (hasNode_iff.mp hnode)

theorem not_mem_nodeIds_without (g : Graph) (id : String) : id ∉ (g.without id).nodeIds := by
  rw [nodeIds, List.mem_map]
  rintro ⟨n, hn, hid⟩
  have hkept := (List.mem_filter.mp hn).2
  exact of_decide_eq_true hkept hid

/-- Nothing in the graph belongs to a node that is not there. -/
theorem WellFormed.without_of_not_mem (h : g.WellFormed) (hid : id ∉ g.nodeIds) :
    g.without id = g := by
  have hnodes : (g.nodes.filter fun n => n.id ≠ id) = g.nodes := by
    apply List.filter_eq_self.mpr
    intro n hn
    rw [decide_eq_true_iff]
    rintro rfl
    exact hid (mem_nodeIds_of_mem hn)
  have hedges : (g.edges.filter fun e => e.source ≠ id ∧ e.target ≠ id) = g.edges := by
    apply List.filter_eq_self.mpr
    intro e he
    obtain ⟨hsource, htarget⟩ := h.closed e he
    rw [decide_eq_true_iff]
    exact ⟨fun heq => hid (heq ▸ hsource), fun heq => hid (heq ▸ htarget)⟩
  have hpanel : g.panel ≠ some id := fun hshown => hid (h.panel id hshown)
  rw [without, hnodes, hedges, if_neg hpanel]

end Graph

namespace Session

variable {s : Session} {id : String}

/-- The session once a node is deleted, or when there is none to delete. -/
theorem Reachable.deleteNode_session (h : s.Reachable) (id : String) :
    (s.deleteNode id).session = { s with
      graph := s.graph.without id
      panel := if s.panel.any fun form => form.nodeId == id then none else s.panel } := by
  have hgraph := h.graph_reachable.wellFormed
  by_cases hid : id ∈ s.graph.nodeIds
  · rw [s.deleteNode_eq (hgraph.delete?_of_mem hid)]
  · have hpanel : (s.panel.any fun form => form.nodeId == id) = false := by
      rw [Option.any_eq_false]
      intro form hform
      rw [beq_eq_false_iff_ne]
      rintro rfl
      exact hid (h.panelAgrees.mem_nodeIds hform)
    rw [deleteNode, Graph.delete?_of_not_mem hid, hgraph.without_of_not_mem hid, hpanel]
    rfl

theorem deleteNode_of_not_mem (hid : id ∉ s.graph.nodeIds) : s.deleteNode id = s.stay false := by
  rw [deleteNode, Graph.delete?_of_not_mem hid]

theorem Reachable.deleteNode_answer (h : s.Reachable) (id : String) :
    (s.deleteNode id).answer = true ↔ id ∈ s.graph.nodeIds := by
  by_cases hid : id ∈ s.graph.nodeIds
  · rw [s.deleteNode_eq (h.graph_reachable.wellFormed.delete?_of_mem hid)]
    exact iff_of_true rfl hid
  · rw [deleteNode_of_not_mem hid]
    exact iff_of_false Bool.false_ne_true hid

/-- In every session that operations can reach, a node can be deleted just if it is there. Then it
is gone, and with it the edges at it; all other nodes and edges are as they were and in the same
order, the panel is closed just if it was that of the node, and nothing else changes, not even what
is staged for the node. To delete it again changes nothing and tells nothing. -/
theorem Reachable.deleteNode_spec (h : s.Reachable) (id : String) :
    let after := (s.deleteNode id).session
    ((s.deleteNode id).answer = true ↔ ∃ n ∈ s.graph.nodes, n.id = id) ∧
    (∀ n ∈ after.graph.nodes, n.id ≠ id) ∧
    after.graph.nodes = (s.graph.nodes.filter fun n => n.id ≠ id) ∧
    after.graph.edges = (s.graph.edges.filter fun e => e.source ≠ id ∧ e.target ≠ id) ∧
    (∀ form, s.panel = some form →
      (form.nodeId = id → after.panel = none ∧ after.graph.panel = none) ∧
      (form.nodeId ≠ id → after.panel = some form ∧ after.graph.panel = some form.nodeId)) ∧
    (s.panel = none → after.panel = none ∧ after.graph.panel = none) ∧
    after = { s with graph := after.graph, panel := after.panel } ∧
    after.deleteNode id = { answer := false, session := after, events := [] } := by
  have hafter := h.deleteNode_session id
  have htarget := h.panelAgrees.target
  refine ⟨?_, ?_, ?_, ?_, ?_, ?_, ?_, ?_⟩
  · rw [h.deleteNode_answer, Graph.nodeIds, List.mem_map]
  · rw [hafter]
    exact fun n hn => of_decide_eq_true (List.mem_filter.mp hn).2
  · rw [hafter]
    rfl
  · rw [hafter]
    rfl
  · intro form hform
    rw [hform, Option.map_some] at htarget
    rw [hafter]
    constructor
    · intro hid
      simp [hform, Graph.without, htarget, hid]
    · intro hid
      simp [hform, Graph.without, htarget, hid]
  · intro hnone
    rw [hnone, Option.map_none] at htarget
    rw [hafter]
    simp [hnone, Graph.without, htarget]
  · rw [hafter]
  · apply deleteNode_of_not_mem
    rw [hafter]
    exact s.graph.not_mem_nodeIds_without id

theorem revised_deleteNode_spec :
    revised.Reachable ∧ revised.panel.map (·.nodeId) = some "q" ∧
    revised.graph.edges.length = 1 ∧ revised.staging.ids = ["q", "r"] ∧
    (revised.deleteNode "q").answer = true ∧
    (revised.deleteNode "q").session.panel = none ∧
    (revised.deleteNode "q").session.graph.panel = none ∧
    (revised.deleteNode "q").session.graph.nodeIds = ["r"] ∧
    (revised.deleteNode "q").session.graph.edges = [] ∧
    (revised.deleteNode "q").session.staging.ids = ["q", "r"] ∧
    (revised.deleteNode "q").session.deleteNode "q" =
      { answer := false, session := (revised.deleteNode "q").session, events := [] } := by
  obtain ⟨hanswer, -, hnodes, hedges, hpanel, -, hframe, hagain⟩ :=
    revised_reachable.deleteNode_spec "q"
  obtain ⟨form, hform⟩ := Option.isSome_iff_exists.mp
    (show revised.panel.isSome = true by decide +kernel)
  have hid : revised.panel.map (·.nodeId) = some "q" := by decide +kernel
  have hstaged : revised.staging.ids = ["q", "r"] := by decide +kernel
  have hopen := hid
  rw [hform, Option.map_some, Option.some.injEq] at hopen
  obtain ⟨hclosed, htarget⟩ := (hpanel form hform).1 hopen
  refine ⟨revised_reachable, hid, by decide +kernel, hstaged, hanswer.mpr (by decide +kernel),
    hclosed, htarget, ?_, ?_, ?_, hagain⟩
  · rw [Graph.nodeIds, hnodes]
    decide +kernel
  · rw [hedges]
    decide +kernel
  · rw [hframe]
    exact hstaged

end Session

end NodeCanvas
