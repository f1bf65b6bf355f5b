import NodeCanvas.Staging
import NodeCanvas.Proofs.Dict
import NodeCanvas.Proofs.Graph.Parameters

namespace NodeCanvas

namespace Staging

theorem get?_save_self (s : Staging) (id : String) (values : Parameters) :
    (s.save id values).get? id = some values :=
  Dict.get?_insert_self ..

theorem get?_save_of_ne (s : Staging) {id other : String} (values : Parameters)
    (h : other ≠ id) : (s.save id values).get? other = s.get? other :=
  Dict.get?_insert_of_ne _ _ h

theorem commit?_eq_some {s after : Staging} {g graph : Graph} {id : String}
    {values : Parameters} (h : s.commit? g id values = some (after, graph)) :
    g.replaceParameters? id values = some graph ∧ after = s.save id values := by
  obtain ⟨changed, hchanged, heq⟩ := Option.map_eq_some_iff.mp h
  obtain ⟨rfl, rfl⟩ := Prod.mk.inj heq
  exact ⟨hchanged, rfl⟩

/-- Values for a node that is there are taken. -/
theorem commit?_of_mem (s : Staging) {g : Graph} {id : String} (h : id ∈ g.nodeIds)
    (values : Parameters) :
    s.commit? g id values = some (s.save id values, { g with
      nodes := Graph.changeNode id (fun n => { n with parameters := values }) g.nodes }) := by
  rw [commit?, Graph.replaceParameters?, Graph.change?, if_pos (Graph.hasNode_iff.mpr h)]
  rfl

theorem merge?_eq_some {s after : Staging} {g graph : Graph} {id : String}
    {values : Parameters} (h : s.merge? g id values = some (after, graph)) :
    g.updateParameters? id values = some graph ∧
      after = (graph.node? id).elim s fun n => s.save id n.parameters := by
  obtain ⟨changed, hchanged, heq⟩ := Option.map_eq_some_iff.mp h
  obtain ⟨rfl, rfl⟩ := Prod.mk.inj heq
  exact ⟨hchanged, rfl⟩

theorem saved_ofGraph (g : Graph) :
    (ofGraph g).saved = Dict.ofList (g.nodes.map fun n => (n.id, n.parameters)) := by
  have hfold : ∀ (nodes : List Node) (s : Staging),
      (nodes.foldl (fun s n => s.save n.id n.parameters) s).saved =
        s.saved.insertAll (nodes.map fun n => (n.id, n.parameters)) := by
    intro nodes
    induction nodes with
    | nil => exact fun _ => rfl
    | cons n rest ih => exact fun s => ih (s.save n.id n.parameters)
  exact hfold g.nodes {}

theorem get?_ofGraph {g : Graph} (h : g.nodeIds.Nodup) {n : Node} (hn : n ∈ g.nodes) :
    (ofGraph g).get? n.id = some n.parameters := by
  rw [get?, saved_ofGraph]
  refine Dict.get?_ofList_of_mem ?_ (List.mem_map.mpr ⟨n, hn, rfl⟩)
  rw [List.map_map]
  exact h

/-- For every node there is nothing staged, or just its parameters. -/
def Agrees (s : Staging) (g : Graph) : Prop :=
  ∀ n ∈ g.nodes, s.get? n.id = none ∨ s.get? n.id = some n.parameters

theorem agrees_ofGraph {g : Graph} (h : g.nodeIds.Nodup) : (ofGraph g).Agrees g :=
  fun _ hn => .inr (get?_ofGraph h hn)

theorem Agrees.of_covers {s : Staging} {g after : Graph} (h : s.Agrees g)
    (hcovers : g.Covers after) : s.Agrees after := by
  intro n hn
  obtain ⟨m, hm, hid, hparameters⟩ := hcovers n hn
  rw [← hid, ← hparameters]
  exact h m hm

/-- A new node has nothing staged where its id is new there as well. -/
theorem Agrees.addFrom {s : Staging} {g after : Graph} {catalog : Catalog} {key id : String}
    {token : Token} (h : s.Agrees g) (hadd : g.addFrom catalog key token = .ok (id, after))
    (fresh : s.get? id = none) : s.Agrees after := by
  obtain ⟨type, -, heq⟩ := Graph.addFrom_eq_ok hadd
  obtain ⟨rfl, rfl⟩ := Prod.mk.inj heq
  intro n hn
  rcases List.mem_append.mp hn with hn | hn
  · exact h n hn
  · rw [List.mem_singleton] at hn
    subst hn
    exact .inl fresh

theorem Agrees.commit {s after : Staging} {g graph : Graph} {id : String} {values : Parameters}
    (h : s.Agrees g) (hg : g.WellFormed)
    (hcommit : s.commit? g id values = some (after, graph)) : after.Agrees graph := by
  obtain ⟨hreplace, rfl⟩ := commit?_eq_some hcommit
  intro n hn
  rcases Graph.mem_of_change? hg.distinct hreplace hn with ⟨hn, hne⟩ | ⟨m, -, rfl, rfl⟩
  · rw [get?_save_of_ne _ _ hne]
    exact h n hn
  · exact .inr (get?_save_self ..)

theorem Agrees.merge {s after : Staging} {g graph : Graph} {id : String} {values : Parameters}
    (h : s.Agrees g) (hg : g.WellFormed)
    (hmerge : s.merge? g id values = some (after, graph)) : after.Agrees graph := by
  obtain ⟨hupdate, rfl⟩ := merge?_eq_some hmerge
  have hdistinct : graph.nodeIds.Nodup := (hg.change hupdate fun _ => rfl).distinct
  intro n hn
  rcases Graph.mem_of_change? hg.distinct hupdate hn with ⟨hmem, hne⟩ | ⟨m, -, rfl, rfl⟩
  · cases graph.node? id with
    | none => exact h n hmem
    | some changed =>
        have hother := s.get?_save_of_ne changed.parameters hne
        simpa only [Option.elim_some, hother] using h n hmem
  · have hfound := Graph.node?_of_mem hdistinct hn
    dsimp only at hfound
    rw [hfound]
    exact .inr (get?_save_self ..)

end Staging

end NodeCanvas
