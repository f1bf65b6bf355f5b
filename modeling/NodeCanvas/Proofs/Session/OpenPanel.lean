import NodeCanvas.Proofs.Form.Reconcile
import NodeCanvas.Proofs.Run.Shown
import NodeCanvas.Proofs.Session.Agreement

/-!
The open panel is remembered twice, by the session and by its graph. In every session that
operations reach both remember the same node, it is there, and the form is made for its type. So
the panel can always be saved, and saving it reaches its node and nothing else.
-/
namespace NodeCanvas

namespace Graph

/-- The nodes, each as its id and its type. -/
def typedIds (g : Graph) : List (String × NodeType) := g.nodes.map fun n => (n.id, n.type)

theorem typedIds_change {g after : Graph} {id : String} {change : Node → Node}
    (hchange : g.change? id change = some after)
    (hkeep : ∀ n, (change n).id = n.id ∧ (change n).type = n.type) :
    after.typedIds = g.typedIds := by
  obtain ⟨-, rfl⟩ := change?_eq_some hchange
  show (changeNode id change g.nodes).map _ = g.nodes.map _
  induction g.nodes with
  | nil => rfl
  | cons head rest ih =>
      rw [changeNode]
      split
      · rw [List.map_cons, List.map_cons, (hkeep head).1, (hkeep head).2]
      · rw [List.map_cons, List.map_cons, ih]

theorem SameBody.typedIds_eq {g after : Graph} (h : g.SameBody after) :
    after.typedIds = g.typedIds := by
  have hmap : ∀ {nodes others : List Node}, List.Forall₂ Node.SameBody nodes others →
      others.map (fun n => (n.id, n.type)) = nodes.map fun n => (n.id, n.type) := by
    intro nodes others hnodes
    induction hnodes with
    | nil => rfl
    | cons hhead _ ih =>
        rw [List.map_cons, List.map_cons, ih, hhead]
  exact hmap h.nodes

theorem typedIds_subset_add (g : Graph) (type : NodeType) (token : Token) :
    g.typedIds ⊆ (g.add type token).2.typedIds := by
  unfold add typedIds
  rw [List.map_append]
  exact List.subset_append_left ..

theorem SameBody.nodeIds_eq {g after : Graph} (h : g.SameBody after) :
    after.nodeIds = g.nodeIds := by
  have hids := congrArg (List.map Prod.fst) h.typedIds_eq
  rwa [typedIds, typedIds, List.map_map, List.map_map] at hids

theorem mem_typedIds_delete {g after : Graph} {id : String} (h : g.delete? id = some after)
    {node : String × NodeType} (hnode : node ∈ g.typedIds) (hne : node.1 ≠ id) :
    node ∈ after.typedIds := by
  obtain ⟨-, rfl⟩ := delete?_eq_some h
  obtain ⟨n, hn, rfl⟩ := List.mem_map.mp hnode
  have hkept : n ∈ g.nodes.eraseP fun n => n.id == id :=
    (List.mem_eraseP_of_neg (by simpa using hne)).mpr hn
  exact List.mem_map.mpr ⟨n, hkept, rfl⟩

end Graph

namespace Session

/-- The session and its graph have the same panel open, with the form of a node that is there. -/
structure PanelAgrees (s : Session) : Prop where
  target : s.graph.panel = s.panel.map (·.nodeId)
  node : ∀ form, s.panel = some form → (form.nodeId, form.type) ∈ s.graph.typedIds

namespace PanelAgrees

variable {s after : Session}

theorem mem_nodeIds (h : s.PanelAgrees) {form : Form} (hform : s.panel = some form) :
    form.nodeId ∈ s.graph.nodeIds := by
  obtain ⟨n, hn, hnode⟩ := List.mem_map.mp (h.node form hform)
  obtain ⟨hid, -⟩ := Prod.mk.inj hnode
  exact List.mem_map.mpr ⟨n, hn, hid⟩

theorem of_closed (hpanel : after.panel = none) (htarget : after.graph.panel = none) :
    after.PanelAgrees where
  target := by rw [hpanel, htarget, Option.map_none]
  node := by simp [hpanel]

theorem of_nodes (h : s.PanelAgrees) (hpanel : after.panel = s.panel)
    (htarget : after.graph.panel = s.graph.panel)
    (hnodes : s.graph.typedIds ⊆ after.graph.typedIds) : after.PanelAgrees where
  target := by rw [hpanel, htarget, h.target]
  node := by
    rw [hpanel]
    exact fun form hform => hnodes (h.node form hform)

theorem of_change (h : s.PanelAgrees) (hpanel : after.panel = s.panel) {id : String}
    {change : Node → Node} (hchange : s.graph.change? id change = some after.graph)
    (hkeep : ∀ n, (change n).id = n.id ∧ (change n).type = n.type) : after.PanelAgrees := by
  obtain ⟨-, hgraph⟩ := Graph.change?_eq_some hchange
  refine h.of_nodes hpanel (by rw [hgraph]) ?_
  rw [Graph.typedIds_change hchange hkeep]
  exact List.Subset.refl _

theorem of_sameBody (h : s.PanelAgrees) (hpanel : after.panel = s.panel)
    (hbody : s.graph.SameBody after.graph) : after.PanelAgrees := by
  refine h.of_nodes hpanel hbody.panel ?_
  rw [hbody.typedIds_eq]
  exact List.Subset.refl _

theorem of_form (h : s.PanelAgrees) {form next : Form} (hs : s.panel = some form)
    (hpanel : after.panel = some next) (hid : next.nodeId = form.nodeId)
    (htype : next.type = form.type) (hgraph : after.graph = s.graph) : after.PanelAgrees where
  target := by rw [hgraph, hpanel, h.target, hs, Option.map_some, Option.map_some, hid]
  node := by
    rw [hpanel, hgraph]
    rintro _ ⟨⟩
    rw [hid, htype]
    exact h.node form hs

theorem opened {id : String} {node : Node} (h : s.graph.node? id = some node)
    (hgraph : after.graph = { s.graph with panel := some id }) {values : Parameters}
    (hpanel : after.panel = some (.ofNode id node.type values)) : after.PanelAgrees where
  target := by
    rw [hgraph, hpanel]
    rfl
  node := by
    rw [hpanel, hgraph]
    rintro _ ⟨⟩
    obtain ⟨hmem, rfl⟩ := Graph.mem_of_node? h
    exact List.mem_map.mpr ⟨node, hmem, rfl⟩

theorem deleted (h : s.PanelAgrees) {id : String} {graph : Graph}
    (hdelete : s.graph.delete? id = some graph) :
    PanelAgrees { s with
      graph, panel := if s.panel.any fun f => f.nodeId == id then none else s.panel } := by
  have htarget : graph.panel = if s.graph.panel = some id then none else s.graph.panel := by
    obtain ⟨-, rfl⟩ := Graph.delete?_eq_some hdelete
    rfl
  cases hpanel : s.panel with
  | none => exact of_closed rfl (by rw [htarget, h.target, hpanel]; rfl)
  | some form =>
      have hopen : s.graph.panel = some form.nodeId := by rw [h.target, hpanel, Option.map_some]
      by_cases hid : form.nodeId = id
      · exact of_closed (by simp [hid]) (by rw [htarget, hopen, hid, if_pos rfl])
      · refine ⟨?_, ?_⟩
        · simp [htarget, hopen, hid]
        · intro other hother
          obtain rfl : form = other := by simpa [hid] using hother
          exact Graph.mem_typedIds_delete hdelete (h.node form hpanel) hid

end PanelAgrees

theorem Becomes.panelAgrees {s after : Session} {move : Move} (h : s.Becomes move after)
    (hs : s.PanelAgrees) : after.PanelAgrees := by
  have hsame : s.graph.typedIds ⊆ s.graph.typedIds := List.Subset.refl _
  cases h with
  | same => exact hs
  | catalog | begun | cancelled => exact hs.of_nodes rfl rfl hsame
  | added h =>
      obtain ⟨type, -, heq⟩ := Graph.addFrom_eq_ok h
      obtain ⟨rfl, rfl⟩ := Prod.mk.inj heq
      exact hs.of_nodes rfl rfl (s.graph.typedIds_subset_add type _)
  | deleted h => exact hs.deleted h
  | connected h =>
      obtain ⟨-, -, rfl⟩ := Graph.connect_eq_ok h
      exact hs.of_nodes rfl rfl hsame
  | edgeRemoved h =>
      obtain ⟨-, rfl⟩ := Graph.removeEdge?_eq_some h
      exact hs.of_nodes rfl rfl hsame
  | updated h =>
      exact hs.of_change rfl (Staging.merge?_eq_some h).1 fun _ => ⟨rfl, rfl⟩
  | moved h => exact hs.of_change rfl h fun _ => ⟨rfl, rfl⟩
  | panelOpened h => exact .opened h rfl rfl
  | groupToggled h htoggle =>
      obtain rfl := Form.toggleGroup?_eq_some htoggle
      exact hs.of_form h rfl rfl rfl rfl
  | edited h hedit =>
      obtain ⟨_, value, -, -, rfl⟩ := Form.edit_eq_some hedit
      exact hs.of_form h rfl (Form.nodeId_reconcile _ _) (Form.type_reconcile _ _) rfl
  | resolved service h =>
      rw [Form.resolve_run]
      exact hs.of_form h rfl (Form.nodeId_reconcile _ _) (Form.type_reconcile _ _) rfl
  | panelClosed | panelLost => exact .of_closed rfl rfl
  | panelSaved h hcommit =>
      obtain ⟨hreplace, -⟩ := Staging.commit?_eq_some hcommit
      obtain ⟨-, rfl⟩ := Graph.change?_eq_some hreplace
      exact .of_closed rfl rfl
  | finished | ran => exact hs.of_sameBody rfl (outcomeOf_sameBody s.graph _)
  | imported | loaded => exact .of_closed rfl rfl

theorem Reachable.panelAgrees {s : Session} (h : s.Reachable) : s.PanelAgrees := by
  induction h with
  | opened catalog rules => exact .of_closed rfl rfl
  | step move _ _ ih => exact (becomes_perform _ move).panelAgrees ih

/-- In every session that operations can reach, the graph points at the node of the open panel,
which is there and has the type of the form. Saving the panel cannot fail: it puts the values of
the form on the node and stages them for it, closes the panel, and changes nothing else. -/
theorem Reachable.open_panel_spec {s : Session} (h : s.Reachable) :
    s.graph.panel = s.panel.map (·.nodeId) ∧
    ∀ form, s.panel = some form →
      (∃ n, s.graph.node? form.nodeId = some n ∧ n.type = form.type) ∧
      s.savePanel.answer = true ∧
      s.savePanel.session = { s with
        panel := none
        staging := s.savePanel.session.staging
        graph := { s.graph with
          nodes := s.graph.nodes.map fun n =>
            if n.id = form.nodeId then { n with parameters := form.values } else n
          panel := none } } ∧
      ∀ id, s.savePanel.session.staging.get? id =
        if id = form.nodeId then some form.values else s.staging.get? id := by
  refine ⟨h.panelAgrees.target, ?_⟩
  intro form hform
  have hdistinct := h.graph_reachable.wellFormed.distinct
  obtain ⟨n, hn, hnode⟩ := List.mem_map.mp (h.panelAgrees.node form hform)
  obtain ⟨hid, htype⟩ := Prod.mk.inj hnode
  have hsaved := savePanel_eq hform (h.panelAgrees.mem_nodeIds hform)
  rw [Graph.changeNode_eq_map hdistinct] at hsaved
  refine ⟨⟨n, hid ▸ Graph.node?_of_mem hdistinct hn, htype⟩, ?_, ?_, ?_⟩
  · rw [hsaved]
  · rw [hsaved]
  · intro id
    rw [hsaved]
    by_cases hother : id = form.nodeId
    · rw [if_pos hother, hother]
      exact Staging.get?_save_self ..
    · rw [if_neg hother]
      exact Staging.get?_save_of_ne _ _ hother

def revised : Session :=
  ((started.openPanel "q").session.perform (.editPanel "query" (.text "Why?"))).session

theorem revised_reachable : revised.Reachable :=
  .step _ (.step (.openPanel "q") started_reachable trivial) trivial

theorem revised_open_panel_spec :
    revised.Reachable ∧ revised.graph.panel = some "q" ∧
    ∃ form, revised.panel = some form ∧ form.values.get? "query" = some (.str "Why?") ∧
      revised.savePanel.answer = true ∧
      revised.savePanel.session.panel = none ∧ revised.savePanel.session.graph.panel = none ∧
      revised.savePanel.session.staging.get? "q" = some form.values ∧
      revised.savePanel.session.staging.get? "r" = revised.staging.get? "r" ∧
      revised.savePanel.session.graph.nodes = revised.graph.nodes.map fun n =>
        if n.id = "q" then { n with parameters := form.values } else n := by
  obtain ⟨htarget, hopen⟩ := revised_reachable.open_panel_spec
  obtain ⟨form, hform⟩ := Option.isSome_iff_exists.mp
    (show revised.panel.isSome = true by decide +kernel)
  have hquery : (revised.panel.bind (·.values.get? "query")) = some (.str "Why?") := by
    decide +kernel
  have hid : revised.panel.map (·.nodeId) = some "q" := by decide +kernel
  obtain ⟨-, hanswer, hsession, hstaged⟩ := hopen form hform
  rw [hform, Option.bind_some] at hquery
  rw [hid] at htarget
  rw [hform, Option.map_some, Option.some.injEq] at hid
  rw [hid] at hsession hstaged
  refine ⟨revised_reachable, htarget, form, hform, hquery, hanswer, ?_, ?_, ?_, ?_, ?_⟩
  · rw [hsession]
  · rw [hsession]
  · exact hstaged "q"
  · exact hstaged "r"
  · rw [hsession]

end Session

end NodeCanvas
