import Mathlib.Data.List.Forall2
import NodeCanvas.Proofs.Graph.Parameters
import NodeCanvas.Proofs.Plan.Nodes

namespace NodeCanvas

namespace Node

def SameBody (n m : Node) : Prop := m = { n with annotations := m.annotations }

theorem SameBody.refl (n : Node) : n.SameBody n := rfl

theorem SameBody.trans {n m k : Node} (h : n.SameBody m) (hk : m.SameBody k) :
    n.SameBody k := by
  unfold SameBody at h hk ⊢
  rw [hk, h]

theorem sameBody_annotated (n : Node) (shown : Annotations) :
    n.SameBody { n with annotations := shown } := rfl

theorem SameBody.id_eq {n m : Node} (h : n.SameBody m) : m.id = n.id := by
  rw [h]

theorem resolveParameters_annotated (n : Node) (shown : Annotations) (r : Rules)
    (values : Parameters) (parameters : List Parameter) :
    { n with annotations := shown }.resolveParameters r values parameters =
      n.resolveParameters r values parameters := by
  induction parameters generalizing values with
  | nil => rfl
  | cons p rest ih => simp only [resolveParameters, ih]

theorem SameBody.toPlan_eq {n m : Node} (h : n.SameBody m) (r : Rules) :
    m.toPlan r = n.toPlan r := by
  rw [h, toPlan, toPlan]
  simp only [resolveParameters_annotated]

end Node

namespace Graph

structure SameBody (g after : Graph) : Prop where
  nodes : List.Forall₂ Node.SameBody g.nodes after.nodes
  edges : after.edges = g.edges
  panel : after.panel = g.panel

theorem SameBody.refl (g : Graph) : g.SameBody g :=
  ⟨List.forall₂_same.mpr fun n _ => Node.SameBody.refl n, rfl, rfl⟩

theorem forall₂_sameBody_trans {before between nodes : List Node}
    (h : List.Forall₂ Node.SameBody before between)
    (hnodes : List.Forall₂ Node.SameBody between nodes) :
    List.Forall₂ Node.SameBody before nodes := by
  induction h generalizing nodes with
  | nil => exact hnodes
  | cons hhead _ ih =>
      cases hnodes with
      | cons hnext hrest => exact .cons (hhead.trans hnext) (ih hrest)

theorem SameBody.trans {g middle after : Graph} (h : g.SameBody middle)
    (hafter : middle.SameBody after) : g.SameBody after where
  nodes := forall₂_sameBody_trans h.nodes hafter.nodes
  edges := hafter.edges.trans h.edges
  panel := hafter.panel.trans h.panel

theorem SameBody.exists_of_mem {g after : Graph} (h : g.SameBody after) {m : Node}
    (hm : m ∈ after.nodes) : ∃ n ∈ g.nodes, n.SameBody m := by
  obtain ⟨hlength, hbodies⟩ := List.forall₂_iff_get.mp h.nodes
  obtain ⟨i, rfl⟩ := List.get_of_mem hm
  have hi : i.val < g.nodes.length := by
    rw [hlength]
    exact i.isLt
  exact ⟨g.nodes.get ⟨i, hi⟩, List.get_mem .., hbodies i hi i.isLt⟩

theorem SameBody.covers {g after : Graph} (h : g.SameBody after) : g.Covers after := by
  intro m hm
  obtain ⟨n, hn, hbody⟩ := h.exists_of_mem hm
  refine ⟨n, hn, hbody.id_eq.symm, ?_⟩
  rw [hbody]

theorem sameBody_clearAnnotations (g : Graph) : g.SameBody g.clearAnnotations where
  nodes := List.forall₂_map_right_iff.mpr
    (List.forall₂_same.mpr fun n _ => n.sameBody_annotated {})
  edges := rfl
  panel := rfl

theorem sameBody_of_annotate? {g after : Graph} {id : String} {shown : Annotations}
    (h : g.annotate? id shown = some after) : g.SameBody after := by
  obtain ⟨-, rfl⟩ := change?_eq_some h
  refine ⟨?_, rfl, rfl⟩
  show List.Forall₂ Node.SameBody g.nodes (changeNode id _ g.nodes)
  induction g.nodes with
  | nil => exact .nil
  | cons n rest ih =>
      rw [changeNode]
      split
      · exact .cons (n.sameBody_annotated shown) (List.forall₂_same.mpr fun m _ => .refl m)
      · exact .cons (.refl n) ih

theorem sameBody_annotateAll (g : Graph) (summary : Projection)
    (entries : List (String × Annotations)) : g.SameBody (g.annotateAll summary entries).2 := by
  induction entries generalizing g summary with
  | nil => exact .refl g
  | cons entry rest ih =>
      simp only [annotateAll]
      split
      · rename_i hshown
        exact (sameBody_of_annotate? hshown).trans (ih _ _)
      · exact ih _ _

theorem sameBody_project (g : Graph) (report : RunReport) : g.SameBody (g.project report).2 :=
  g.sameBody_clearAnnotations.trans (sameBody_annotateAll _ _ _)

theorem nodesOf_eq_of_sameBody {nodes after : List Node}
    (h : List.Forall₂ Node.SameBody nodes after) (r : Rules) (seen : Dict String PlanNode) :
    Plan.nodesOf r seen after = Plan.nodesOf r seen nodes := by
  induction h generalizing seen with
  | nil => rfl
  | cons hhead _ ih => simp only [Plan.nodesOf, hhead.toPlan_eq r, hhead.id_eq, ih]

theorem SameBody.plan_eq {g after : Graph} (h : g.SameBody after) (r : Rules) :
    after.plan r = g.plan r := by
  rw [plan, plan, isEmpty_eq_of_length h.nodes.length_eq.symm, nodesOf_eq_of_sameBody h.nodes,
    h.edges]

end Graph

end NodeCanvas
