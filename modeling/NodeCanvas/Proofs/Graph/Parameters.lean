import NodeCanvas.Proofs.Graph.WellFormed

namespace NodeCanvas.Graph

/-- Each node of the second graph has the id and the parameters of a node of the first. -/
def Covers (g after : Graph) : Prop :=
  ∀ n ∈ after.nodes, ∃ m ∈ g.nodes, m.id = n.id ∧ m.parameters = n.parameters

theorem Covers.of_subset {g after : Graph} (h : after.nodes ⊆ g.nodes) : g.Covers after :=
  fun n hn => ⟨n, h hn, rfl, rfl⟩

theorem Covers.trans {g middle after : Graph} (h : g.Covers middle)
    (hafter : middle.Covers after) : g.Covers after := by
  intro n hn
  obtain ⟨m, hm, hid, hparameters⟩ := hafter n hn
  obtain ⟨l, hl, hid', hparameters'⟩ := h m hm
  exact ⟨l, hl, hid'.trans hid, hparameters'.trans hparameters⟩

theorem mem_changeNode {id : String} {change : Node → Node} {nodes : List Node} {n : Node}
    (hn : n ∈ changeNode id change nodes) :
    n ∈ nodes ∨ ∃ m ∈ nodes, m.id = id ∧ n = change m := by
  induction nodes with
  | nil => simp [changeNode] at hn
  | cons head rest ih =>
      rw [changeNode] at hn
      split at hn
      · rename_i hid
        rcases List.mem_cons.mp hn with rfl | hn
        · exact .inr ⟨head, List.mem_cons_self .., by simpa using hid, rfl⟩
        · exact .inl (List.mem_cons_of_mem _ hn)
      · rcases List.mem_cons.mp hn with rfl | hn
        · exact .inl (List.mem_cons_self ..)
        · rcases ih hn with hn | ⟨m, hm, hid, rfl⟩
          · exact .inl (List.mem_cons_of_mem _ hn)
          · exact .inr ⟨m, List.mem_cons_of_mem _ hm, hid, rfl⟩

/-- The first node of the id is the one that changes. -/
theorem find?_changeNode (id : String) (change : Node → Node) (h : ∀ n, (change n).id = n.id)
    (nodes : List Node) :
    (changeNode id change nodes).find? (fun n => n.id == id) =
      (nodes.find? fun n => n.id == id).map change := by
  induction nodes with
  | nil => rfl
  | cons head rest ih =>
      rw [changeNode]
      cases hid : head.id == id with
      | true => simp [hid, h]
      | false => simp [hid, ih]

theorem mem_changeNode_of_nodup {id : String} {change : Node → Node} {nodes : List Node}
    (h : (nodes.map (·.id)).Nodup) {n : Node} (hn : n ∈ changeNode id change nodes) :
    (n ∈ nodes ∧ n.id ≠ id) ∨ ∃ m ∈ nodes, m.id = id ∧ n = change m := by
  induction nodes with
  | nil => simp [changeNode] at hn
  | cons head rest ih =>
      rw [List.map_cons, List.nodup_cons] at h
      rw [changeNode] at hn
      split at hn
      · rename_i hid
        obtain rfl : head.id = id := by simpa using hid
        rcases List.mem_cons.mp hn with rfl | hn
        · exact .inr ⟨head, List.mem_cons_self .., rfl, rfl⟩
        · refine .inl ⟨List.mem_cons_of_mem _ hn, fun heq => h.1 ?_⟩
          exact List.mem_map.mpr ⟨n, hn, heq⟩
      · rename_i hid
        rcases List.mem_cons.mp hn with rfl | hn
        · exact .inl ⟨List.mem_cons_self .., by simpa using hid⟩
        · rcases ih h.2 hn with ⟨hmem, hne⟩ | ⟨m, hm, heq, rfl⟩
          · exact .inl ⟨List.mem_cons_of_mem _ hmem, hne⟩
          · exact .inr ⟨m, List.mem_cons_of_mem _ hm, heq, rfl⟩

theorem mem_of_change? {g after : Graph} {id : String} {change : Node → Node}
    (h : g.nodeIds.Nodup) (hchange : g.change? id change = some after) {n : Node}
    (hn : n ∈ after.nodes) :
    (n ∈ g.nodes ∧ n.id ≠ id) ∨ ∃ m ∈ g.nodes, m.id = id ∧ n = change m := by
  obtain ⟨-, rfl⟩ := change?_eq_some hchange
  exact mem_changeNode_of_nodup h hn

theorem mem_change {g after : Graph} (h : g.nodeIds.Nodup) {n : Node} (hn : n ∈ g.nodes)
    (change : Node → Node) (hkeep : ∀ m, (change m).id = m.id)
    (hchange : g.change? n.id change = some after) : change n ∈ after.nodes := by
  obtain ⟨-, rfl⟩ := change?_eq_some hchange
  have hfound := find?_changeNode n.id change hkeep g.nodes
  rw [← node?, node?_of_mem h hn] at hfound
  exact List.mem_of_find?_eq_some hfound

theorem Covers.change {g after : Graph} {id : String} {change : Node → Node}
    (hchange : g.change? id change = some after)
    (hkeep : ∀ n, (change n).id = n.id ∧ (change n).parameters = n.parameters) :
    g.Covers after := by
  obtain ⟨-, rfl⟩ := change?_eq_some hchange
  intro n hn
  rcases mem_changeNode hn with hn | ⟨m, hm, -, rfl⟩
  · exact ⟨n, hn, rfl, rfl⟩
  · exact ⟨m, hm, (hkeep m).1.symm, (hkeep m).2.symm⟩

theorem Covers.delete {g after : Graph} {id : String} (h : g.delete? id = some after) :
    g.Covers after := by
  obtain ⟨-, rfl⟩ := delete?_eq_some h
  exact .of_subset List.eraseP_subset

theorem Covers.connect {g after : Graph} {c : Connection} {token : Token} {id : String}
    (h : g.connect c token = .ok (id, after)) : g.Covers after := by
  obtain ⟨-, -, rfl⟩ := connect_eq_ok h
  exact .of_subset (List.Subset.refl _)

theorem Covers.removeEdge {g after : Graph} {id : String} (h : g.removeEdge? id = some after) :
    g.Covers after := by
  obtain ⟨-, rfl⟩ := removeEdge?_eq_some h
  exact .of_subset (List.Subset.refl _)

theorem Covers.clearAnnotations (g : Graph) : g.Covers g.clearAnnotations := by
  intro n hn
  obtain ⟨m, hm, rfl⟩ := List.mem_map.mp hn
  exact ⟨m, hm, rfl, rfl⟩

theorem Covers.annotateAll (g : Graph) (summary : Projection)
    (entries : List (String × Annotations)) : g.Covers (g.annotateAll summary entries).2 := by
  induction entries generalizing g summary with
  | nil => exact .of_subset (List.Subset.refl _)
  | cons entry rest ih =>
      simp only [Graph.annotateAll]
      split
      · rename_i hshown
        exact (Covers.change hshown fun _ => ⟨rfl, rfl⟩).trans (ih _ _)
      · exact ih _ _

theorem Covers.project (g : Graph) (report : RunReport) : g.Covers (g.project report).2 :=
  (Covers.clearAnnotations g).trans (Covers.annotateAll _ _ _)

end NodeCanvas.Graph
