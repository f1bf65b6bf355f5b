import NodeCanvas.Proofs.Plan.Congruence

namespace NodeCanvas

namespace Graph

variable {nodes others : List Node}

theorem mem_ids_distinctNodes (seen : List String) (nodes : List Node) (id : String) :
    id ∈ (distinctNodes seen nodes).map (·.id) ↔ id ∈ nodes.map (·.id) ∧ id ∉ seen := by
  induction nodes generalizing seen with
  | nil => simp [distinctNodes]
  | cons head rest ih =>
      rw [distinctNodes]
      split
      · rename_i hhead
        rw [ih, List.map_cons, List.mem_cons]
        have hseen : head.id ∈ seen := List.contains_iff_mem.mp hhead
        constructor
        · rintro ⟨hmem, hnew⟩
          exact ⟨.inr hmem, hnew⟩
        · rintro ⟨rfl | hmem, hnew⟩
          · exact absurd hseen hnew
          · exact ⟨hmem, hnew⟩
      · rename_i hhead
        have hnew : head.id ∉ seen := fun hmem => hhead (List.contains_iff_mem.mpr hmem)
        rw [List.map_cons, List.mem_cons, ih, List.map_cons, List.mem_cons, List.mem_cons]
        by_cases hsame : id = head.id
        · simp [hsame, hnew]
        · simp [hsame]

theorem distinctNodes_of_nodup {seen : List String} (h : (nodes.map (·.id)).Nodup)
    (hnew : ∀ n ∈ nodes, n.id ∉ seen) : distinctNodes seen nodes = nodes := by
  induction nodes generalizing seen with
  | nil => rfl
  | cons head rest ih =>
      rw [List.map_cons, List.nodup_cons] at h
      have hhead : ¬ seen.contains head.id = true := by
        rw [List.contains_iff_mem]
        exact hnew head (List.mem_cons_self ..)
      rw [distinctNodes, if_neg hhead, ih h.2]
      intro n hn hseen
      rcases List.mem_cons.mp hseen with hid | hseen
      · exact h.1 (List.mem_map.mpr ⟨n, hn, hid⟩)
      · exact hnew n (List.mem_cons_of_mem _ hn) hseen

/-- The parts of a graph make the graph again, without its panel. -/
theorem WellFormed.ofParts_eq {g : Graph} (h : g.WellFormed) :
    ofParts g.nodes g.edges = g.closePanel := by
  have hnodes : distinctNodes [] g.nodes = g.nodes :=
    distinctNodes_of_nodup h.distinct fun _ _ => List.not_mem_nil
  have hedges : (g.edges.filter fun e =>
      (g.nodes.map (·.id)).contains e.source && (g.nodes.map (·.id)).contains e.target) =
      g.edges := by
    refine List.filter_eq_self.mpr fun e he => ?_
    rw [Bool.and_eq_true, List.contains_iff_mem, List.contains_iff_mem]
    exact h.closed e he
  simp only [ofParts, hnodes, hedges]
  rfl

theorem distinctNodes_alike (h : List.Forall₂ Node.Alike nodes others) (seen : List String) :
    List.Forall₂ Node.Alike (distinctNodes seen nodes) (distinctNodes seen others) := by
  induction h generalizing seen with
  | nil => exact .nil
  | cons hhead _ ih =>
      rw [distinctNodes, distinctNodes, hhead.id]
      split
      · exact ih seen
      · exact .cons hhead (ih _)

theorem ofParts_alike (h : List.Forall₂ Node.Alike nodes others) (edges : List Edge) :
    (ofParts nodes edges).Alike (ofParts others edges) where
  nodes := distinctNodes_alike h []
  edges := by
    simp only [ofParts, Node.ids_eq_of_alike (distinctNodes_alike h [])]
  panel := rfl

end Graph

structure SavedNode.Alike (s t : SavedNode) : Prop where
  id : s.id = t.id
  kind : s.kind = t.kind
  position : s.position = t.position
  type : s.type.Matches t.type
  parameters : s.parameters = t.parameters
  annotations : s.annotations = t.annotations

structure GraphData.Alike (d e : GraphData) : Prop where
  nodes : List.Forall₂ SavedNode.Alike d.nodes e.nodes
  edges : d.edges = e.edges

theorem SavedNode.Alike.beq {s t : SavedNode} (h : s.Alike t) (hself : (t == t) = true) :
    (s == t) = true := by
  have hparts : (t.id == t.id && (t.kind == t.kind && (t.position == t.position &&
      (t.type == t.type && (t.parameters == t.parameters &&
      t.annotations == t.annotations))))) = true := hself
  simp only [Bool.and_eq_true] at hparts
  obtain ⟨-, -, hposition, hown, -, -⟩ := hparts
  have htype : (s.type == t.type) = true := by
    rcases h.type with heq | hequal
    · rwa [heq]
    · exact hequal
  show (s.id == t.id && (s.kind == t.kind && (s.position == t.position &&
    (s.type == t.type && (s.parameters == t.parameters &&
    s.annotations == t.annotations))))) = true
  rw [h.id, h.kind, h.position, h.parameters, h.annotations, hposition, htype]
  simp only [BEq.rfl, Bool.and_self]

theorem SavedNode.beq_of_alike {nodes others : List SavedNode}
    (h : List.Forall₂ Alike nodes others) (hself : ∀ t ∈ others, (t == t) = true) :
    (nodes == others) = true := by
  rw [beq_iff_forall₂]
  induction h with
  | nil => exact .nil
  | cons hhead _ ih =>
      rw [List.forall_mem_cons] at hself
      exact .cons (hhead.beq hself.1) (ih hself.2)

/-- Alike data are equal, unless they hold a number that is not even equal to itself. -/
theorem GraphData.Alike.beq {d e : GraphData} (h : d.Alike e) (hself : (e == e) = true) :
    (d == e) = true := by
  have hparts : (e.nodes == e.nodes && e.edges == e.edges) = true := hself
  rw [Bool.and_eq_true] at hparts
  have hown : ∀ t ∈ e.nodes, (t == t) = true :=
    List.forall₂_same.mp (beq_iff_forall₂.mp hparts.1)
  show (d.nodes == e.nodes && d.edges == e.edges) = true
  rw [SavedNode.beq_of_alike h.nodes hown, h.edges, hparts.2, Bool.and_self]

namespace GraphData

theorem shareType_matches (seen : List NodeType) (t : NodeType) : (shareType seen t).Matches t := by
  unfold shareType
  cases hfound : seen.find? fun s => s.key == t.key && s == t with
  | none => exact .inl rfl
  | some s =>
      have hsame := List.find?_some hfound
      rw [Bool.and_eq_true] at hsame
      exact .inr hsame.2

/-- Sharing gives every node its own type, or one that is equal to it. -/
theorem shareTypes_alike (seen : List NodeType) (nodes : List Node) :
    List.Forall₂ Node.Alike (shareTypes seen nodes) nodes := by
  induction nodes generalizing seen with
  | nil => exact .nil
  | cons n rest ih => exact .cons ⟨rfl, shareType_matches seen n.type, rfl, rfl, rfl⟩ (ih _)

theorem toGraph_alike (d : GraphData) :
    d.toGraph.Alike (.ofParts (d.nodes.map SavedNode.toNode) d.edges) :=
  Graph.ofParts_alike (shareTypes_alike [] _) d.edges

theorem toNode_ofNode (nodes : List Node) :
    (nodes.map SavedNode.ofNode).map SavedNode.toNode = nodes := by
  rw [List.map_map]
  exact List.map_id nodes

theorem toGraph_ofGraph_alike {g : Graph} (h : g.WellFormed) :
    (ofGraph g).toGraph.Alike g.closePanel := by
  have halike := (ofGraph g).toGraph_alike
  rw [ofGraph, toNode_ofNode, h.ofParts_eq] at halike
  exact halike

/-- The document with the first node of each id, all nodes of one kind, and the edges whose ends
are there. -/
def normalize (d : GraphData) : GraphData where
  nodes := (d.nodes.eraseDupsBy fun s t => s.id == t.id).map fun s =>
    { s with kind := SavedNode.customKind }
  edges := d.edges.filter fun e =>
    d.nodes.any (·.id == e.source) && d.nodes.any (·.id == e.target)

theorem id_toNode (s : SavedNode) : s.toNode.id = s.id := rfl

theorem distinctNodes_toNode (seen : List String) (nodes : List SavedNode) :
    Graph.distinctNodes seen (nodes.map SavedNode.toNode) =
      ((nodes.filter fun s => !seen.contains s.id).eraseDupsBy fun s t => s.id == t.id).map
        SavedNode.toNode := by
  -- The head adds its id to those seen, which is what dropping repetitions filters out.
  induction nodes generalizing seen with
  | nil => rfl
  | cons head rest ih =>
      rw [List.map_cons, Graph.distinctNodes, id_toNode, List.filter_cons]
      by_cases hseen : seen.contains head.id = true
      · have hdropped : ¬ (!seen.contains head.id) = true := by simpa using hseen
        rw [if_pos hseen, if_neg hdropped, ih]
      · have hkept : (!seen.contains head.id) = true := by simpa using hseen
        have hlater : (fun s : SavedNode => !(head.id :: seen).contains s.id) =
            fun s => decide ((s.id == head.id) = false) && !seen.contains s.id := by
          funext s
          rw [List.contains_cons, Bool.not_or]
          cases s.id == head.id <;> rfl
        rw [if_neg hseen, if_pos hkept, List.eraseDupsBy_cons, List.map_cons, List.filter_filter,
          ih, hlater]

theorem ofGraph_ofParts (d : GraphData) :
    ofGraph (.ofParts (d.nodes.map SavedNode.toNode) d.edges) = d.normalize := by
  let kept := Graph.distinctNodes [] (d.nodes.map SavedNode.toNode)
  have hids : ∀ id, (kept.map (·.id)).contains id = d.nodes.any (·.id == id) := by
    intro id
    rw [Bool.eq_iff_iff, List.contains_iff_mem, Graph.mem_ids_distinctNodes]
    simp [id_toNode]
  have hnodes : kept.map SavedNode.ofNode = d.normalize.nodes := by
    have hfirst := distinctNodes_toNode [] d.nodes
    have hall : (d.nodes.filter fun s => !([] : List String).contains s.id) = d.nodes :=
      List.filter_eq_self.mpr fun _ _ => rfl
    rw [show kept = _ from hfirst, hall, List.map_map]
    rfl
  have hedges : (d.edges.filter fun e => (kept.map (·.id)).contains e.source &&
      (kept.map (·.id)).contains e.target) = d.normalize.edges := by
    simp only [hids]
    rfl
  exact congrArg₂ GraphData.mk hnodes hedges

theorem ofGraph_alike {g other : Graph} (h : g.Alike other) :
    (ofGraph g).Alike (ofGraph other) where
  nodes := by
    show List.Forall₂ SavedNode.Alike (g.nodes.map SavedNode.ofNode)
      (other.nodes.map SavedNode.ofNode)
    rw [List.forall₂_map_left_iff, List.forall₂_map_right_iff]
    exact h.nodes.imp fun m n halike =>
      ⟨halike.id, rfl, halike.position, halike.type, halike.parameters, halike.annotations⟩
  edges := h.edges

theorem ofGraph_toGraph_alike (d : GraphData) : (ofGraph d.toGraph).Alike d.normalize := by
  rw [← ofGraph_ofParts]
  exact ofGraph_alike d.toGraph_alike

theorem ofGraph_toGraph_ofGraph_alike {g : Graph} (h : g.WellFormed) :
    (ofGraph (ofGraph g).toGraph).Alike (ofGraph g) := by
  have halike := ofGraph_alike (toGraph_ofGraph_alike h)
  have hpanel : ofGraph g.closePanel = ofGraph g := rfl
  rwa [hpanel] at halike

end GraphData

namespace Graph

open GraphData

/-- Writing and reading a graph gives it back without its panel, with the same plans and warnings;
reading and writing a document gives its normal form, where the two come to rest. What is alike is
equal, as long as it holds no number that is not even equal to itself. -/
theorem Reachable.restored_spec {g : Graph} (h : g.Reachable) :
    ((ofGraph g).toGraph.Alike g.closePanel ∧
      (∀ r, SameResult ((ofGraph g).toGraph.plan r) (g.plan r)) ∧
      (ofGraph g).toGraph.warnings = g.warnings) ∧
    ∀ d : GraphData,
      (ofGraph d.toGraph).Alike d.normalize ∧
      ((d.normalize == d.normalize) = true → (ofGraph d.toGraph == d.normalize) = true) ∧
      (ofGraph (ofGraph d.toGraph).toGraph).Alike (ofGraph d.toGraph) ∧
      ((ofGraph d.toGraph == ofGraph d.toGraph) = true →
        (ofGraph (ofGraph d.toGraph).toGraph == ofGraph d.toGraph) = true) ∧
      List.Forall₂ Node.Alike (shareTypes [] (d.nodes.map SavedNode.toNode))
        (d.nodes.map SavedNode.toNode) := by
  have halike := toGraph_ofGraph_alike h.wellFormed
  have hwarnings : g.closePanel.warnings = g.warnings := warnings_eq_of_ids rfl rfl
  refine ⟨⟨halike, halike.plan_same, halike.warnings_eq.trans hwarnings⟩, fun d => ?_⟩
  have htwice := ofGraph_toGraph_ofGraph_alike (wellFormed_ofParts
    (shareTypes [] (d.nodes.map SavedNode.toNode)) d.edges)
  exact ⟨d.ofGraph_toGraph_alike, d.ofGraph_toGraph_alike.beq, htwice, htwice.beq,
    shareTypes_alike [] _⟩

theorem exchange_restored_spec :
    (exchange.perform (.openPanel "q")).Reachable ∧
    (exchange.perform (.openPanel "q")).panel = some "q" ∧
    (ofGraph (exchange.perform (.openPanel "q"))).toGraph.Alike exchange ∧
    ∃ plan back, exchange.plan .standard = .ok plan ∧
      (ofGraph (exchange.perform (.openPanel "q"))).toGraph.plan .standard = .ok back ∧
      (back == plan) = true := by
  have hreachable : (exchange.perform (.openPanel "q")).Reachable :=
    .step _ (.ofParts _ _) trivial
  obtain ⟨⟨halike, hplan, -⟩, -⟩ := hreachable.restored_spec
  have hok : (exchange.plan .standard).isOk = true := by decide +kernel
  have hsame : SameResult ((ofGraph (exchange.perform (.openPanel "q"))).toGraph.plan .standard)
      (exchange.plan .standard) := hplan .standard
  refine ⟨hreachable, rfl, halike, ?_⟩
  revert hok hsame
  cases exchange.plan .standard <;>
    cases (ofGraph (exchange.perform (.openPanel "q"))).toGraph.plan .standard <;>
      intro hok hsame
  case ok.ok plan back => exact ⟨plan, back, rfl, rfl, hsame⟩
  case ok.error => cases hsame
  all_goals cases hok

end Graph

end NodeCanvas
