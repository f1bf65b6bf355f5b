import Mathlib.Data.List.Nodup
import NodeCanvas.Run.Report

namespace NodeCanvas.Graph

inductive Move where
  | add (type : NodeType) (token : Token)
  | addFrom (catalog : Catalog) (key : String) (token : Token)
  | delete (id : String)
  | connect (connection : Connection) (token : Token)
  | removeEdge (id : String)
  | updateParameters (id : String) (values : Parameters)
  | replaceParameters (id : String) (values : Parameters)
  | move (id : String) (position : Position)
  | annotate (id : String) (annotations : Annotations)
  | clearAnnotations
  | openPanel (id : String)
  | closePanel

/-- The graph after an operation; one that fails leaves it as it is. -/
def perform (g : Graph) : Move → Graph
  | .add type token => (g.add type token).2
  | .addFrom catalog key token =>
      match g.addFrom catalog key token with
      | .ok (_, after) => after
      | .error _ => g
  | .delete id => (g.delete? id).getD g
  | .connect connection token =>
      match g.connect connection token with
      | .ok (_, after) => after
      | .error _ => g
  | .removeEdge id => (g.removeEdge? id).getD g
  | .updateParameters id values => (g.updateParameters? id values).getD g
  | .replaceParameters id values => (g.replaceParameters? id values).getD g
  | .move id position => (g.move? id position).getD g
  | .annotate id annotations => (g.annotate? id annotations).getD g
  | .clearAnnotations => g.clearAnnotations
  | .openPanel id => (g.openPanel? id).getD g
  | .closePanel => g.closePanel

/-- A node that the operation makes gets an id that no node has. -/
def Move.Fresh (g : Graph) : Move → Prop
  | .add type token => (g.add type token).1 ∉ g.nodeIds
  | .addFrom catalog key token =>
      ∀ id after, g.addFrom catalog key token = .ok (id, after) → id ∉ g.nodeIds
  | _ => True

/-- A graph that comes from the empty one, or from arbitrary parts, by operations. -/
inductive Reachable : Graph → Prop
  | empty : Reachable {}
  | ofParts (nodes : List Node) (edges : List Edge) : Reachable (.ofParts nodes edges)
  | step {g : Graph} (move : Move) (h : Reachable g) (fresh : move.Fresh g) :
      Reachable (g.perform move)

structure WellFormed (g : Graph) : Prop where
  distinct : g.nodeIds.Nodup
  closed : ∀ e ∈ g.edges, e.source ∈ g.nodeIds ∧ e.target ∈ g.nodeIds
  panel : ∀ id, g.panel = some id → id ∈ g.nodeIds

theorem mem_nodeIds_of_mem {g : Graph} {n : Node} (h : n ∈ g.nodes) : n.id ∈ g.nodeIds :=
  List.mem_map.mpr ⟨n, h, rfl⟩

theorem hasNode_of_mem {g : Graph} {n : Node} (h : n ∈ g.nodes) : g.hasNode n.id = true :=
  hasNode_iff.mpr (mem_nodeIds_of_mem h)

theorem mem_of_node? {g : Graph} {id : String} {n : Node} (h : g.node? id = some n) :
    n ∈ g.nodes ∧ n.id = id := by
  refine ⟨List.mem_of_find?_eq_some h, ?_⟩
  simpa using List.find?_some h

/-- With distinct ids a node is the one that its id finds. -/
theorem node?_of_mem {g : Graph} (h : g.nodeIds.Nodup) {n : Node} (hn : n ∈ g.nodes) :
    g.node? n.id = some n := by
  obtain ⟨m, hm⟩ := Option.isSome_iff_exists.mp (hasNode_of_mem hn)
  obtain ⟨hmem, hid⟩ := mem_of_node? hm
  rw [hm, List.inj_on_of_nodup_map h hmem hn hid]

/-! Graphs that are made of parts. -/

theorem distinctNodes_not_seen (seen : List String) (nodes : List Node) :
    ∀ n ∈ distinctNodes seen nodes, n.id ∉ seen := by
  induction nodes generalizing seen with
  | nil => simp [distinctNodes]
  | cons head rest ih =>
      intro n hn
      rw [distinctNodes] at hn
      split at hn
      · exact ih seen n hn
      · rename_i hhead
        rcases List.mem_cons.mp hn with rfl | hn
        · simpa using hhead
        · exact fun hseen => ih _ n hn (List.mem_cons_of_mem _ hseen)

theorem distinctNodes_nodup (seen : List String) (nodes : List Node) :
    ((distinctNodes seen nodes).map (·.id)).Nodup := by
  induction nodes generalizing seen with
  | nil => simp [distinctNodes]
  | cons head rest ih =>
      rw [distinctNodes]
      split
      · exact ih seen
      · refine List.nodup_cons.mpr ⟨?_, ih _⟩
        intro hmem
        obtain ⟨n, hn, hid⟩ := List.mem_map.mp hmem
        exact distinctNodes_not_seen _ _ n hn (by simp [hid])

theorem wellFormed_empty : WellFormed {} where
  distinct := List.nodup_nil
  closed := by simp
  panel := by simp

theorem wellFormed_ofParts (nodes : List Node) (edges : List Edge) :
    (ofParts nodes edges).WellFormed where
  distinct := distinctNodes_nodup [] nodes
  closed := by
    intro e he
    have hkept := (List.mem_filter.mp he).2
    rw [Bool.and_eq_true] at hkept
    exact ⟨List.contains_iff_mem.mp hkept.1, List.contains_iff_mem.mp hkept.2⟩
  panel := by simp [ofParts]

/-! One lemma for each way in which an operation changes a graph. -/

section Change

variable {g after : Graph}

/-- The graph changes neither its ids nor its edges nor its panel. -/
theorem WellFormed.of_same (h : g.WellFormed) (hids : after.nodeIds = g.nodeIds)
    (hedges : after.edges = g.edges) (hpanel : after.panel = g.panel) : after.WellFormed where
  distinct := hids ▸ h.distinct
  closed := by
    rw [hids, hedges]
    exact h.closed
  panel := by
    rw [hids, hpanel]
    exact h.panel

theorem WellFormed.add (h : g.WellFormed) (type : NodeType) (token : Token)
    (fresh : (g.add type token).1 ∉ g.nodeIds) : (g.add type token).2.WellFormed := by
  have hids : (g.add type token).2.nodeIds = g.nodeIds ++ [(g.add type token).1] := by
    simp [Graph.add, nodeIds]
  refine ⟨?_, ?_, ?_⟩
  · rw [hids]
    exact List.Nodup.append h.distinct (List.nodup_singleton _) (by simpa using fresh)
  · intro e he
    obtain ⟨hsource, htarget⟩ := h.closed e he
    rw [hids]
    exact ⟨List.mem_append_left _ hsource, List.mem_append_left _ htarget⟩
  · intro id hid
    rw [hids]
    exact List.mem_append_left _ (h.panel id hid)

theorem addFrom_eq_ok {catalog : Catalog} {key : String} {token : Token} {id : String}
    (hadd : g.addFrom catalog key token = .ok (id, after)) :
    ∃ type, catalog.get? key = some type ∧ g.add type token = (id, after) := by
  unfold addFrom at hadd
  split at hadd
  · rename_i type htype
    exact ⟨type, htype, Except.ok.inj hadd⟩
  · cases hadd

theorem delete?_eq_some {id : String} (hdelete : g.delete? id = some after) :
    id ∈ g.nodeIds ∧ after = {
      nodes := g.nodes.eraseP fun n => n.id == id
      edges := g.edges.filter fun e => e.source != id && e.target != id
      panel := if g.panel = some id then none else g.panel } := by
  unfold delete? at hdelete
  split at hdelete
  · rename_i hid
    exact ⟨hasNode_iff.mp hid, (Option.some.inj hdelete).symm⟩
  · cases hdelete

/-- Ids of the nodes that are left once the first node of an id is gone. -/
theorem ids_eraseP (nodes : List Node) (id : String) :
    (nodes.eraseP fun n => n.id == id).map (·.id) = (nodes.map (·.id)).erase id := by
  rw [List.erase_eq_eraseP, List.eraseP_map]
  congr 2
  funext n
  simp [Bool.beq_comm]

theorem WellFormed.delete (h : g.WellFormed) {id : String}
    (hdelete : g.delete? id = some after) : after.WellFormed := by
  obtain ⟨-, rfl⟩ := delete?_eq_some hdelete
  have hids : ∀ other, other ≠ id → other ∈ g.nodeIds →
      other ∈ (g.nodes.eraseP fun n => n.id == id).map (·.id) := by
    intro other hne hother
    rw [ids_eraseP]
    exact (List.mem_erase_of_ne hne).mpr hother
  refine ⟨?_, ?_, ?_⟩
  · simp only [nodeIds, ids_eraseP]
    exact h.distinct.erase id
  · intro e he
    obtain ⟨hmem, hkept⟩ := List.mem_filter.mp he
    rw [Bool.and_eq_true, bne_iff_ne, bne_iff_ne] at hkept
    obtain ⟨hsource, htarget⟩ := h.closed e hmem
    exact ⟨hids _ hkept.1 hsource, hids _ hkept.2 htarget⟩
  · intro other hother
    change (if g.panel = some id then none else g.panel) = some other at hother
    split at hother
    · cases hother
    · rename_i hpanel
      refine hids other ?_ (h.panel other hother)
      rintro rfl
      exact hpanel hother

theorem connect_eq_ok {c : Connection} {token : Token} {id : String}
    (hconnect : g.connect c token = .ok (id, after)) :
    c.source ∈ g.nodeIds ∧ c.target ∈ g.nodeIds ∧ after = { g with edges := g.edges ++ [{
      id, source := c.source, target := c.target
      sourceHandle := c.sourceHandle, targetHandle := c.targetHandle }] } := by
  unfold connect at hconnect
  split at hconnect
  · cases hconnect
  · rename_i hsource
    split at hconnect
    · cases hconnect
    · rename_i htarget
      obtain ⟨rfl, rfl⟩ := Prod.mk.inj (Except.ok.inj hconnect)
      exact ⟨hasNode_iff.mp (by simpa using hsource), hasNode_iff.mp (by simpa using htarget), rfl⟩

theorem WellFormed.connect (h : g.WellFormed) {c : Connection} {token : Token} {id : String}
    (hconnect : g.connect c token = .ok (id, after)) : after.WellFormed := by
  obtain ⟨hsource, htarget, rfl⟩ := connect_eq_ok hconnect
  refine ⟨h.distinct, ?_, h.panel⟩
  intro e he
  rcases List.mem_append.mp he with he | he
  · exact h.closed e he
  · rw [List.mem_singleton] at he
    subst he
    exact ⟨hsource, htarget⟩

theorem removeEdge?_eq_some {id : String} (hremove : g.removeEdge? id = some after) :
    (g.edge? id).isSome = true ∧
      after = { g with edges := g.edges.filter fun e => e.id != id } := by
  unfold removeEdge? at hremove
  split at hremove
  · rename_i hedge
    exact ⟨hedge, (Option.some.inj hremove).symm⟩
  · cases hremove

theorem WellFormed.removeEdge (h : g.WellFormed) {id : String}
    (hremove : g.removeEdge? id = some after) : after.WellFormed := by
  obtain ⟨-, rfl⟩ := removeEdge?_eq_some hremove
  exact ⟨h.distinct, fun e he => h.closed e (List.mem_of_mem_filter he), h.panel⟩

theorem change?_eq_some {id : String} {change : Node → Node}
    (hchange : g.change? id change = some after) :
    id ∈ g.nodeIds ∧ after = { g with nodes := changeNode id change g.nodes } := by
  unfold change? at hchange
  split at hchange
  · rename_i hid
    exact ⟨hasNode_iff.mp hid, (Option.some.inj hchange).symm⟩
  · cases hchange

theorem nodeIds_change {id : String} {change : Node → Node}
    (hchange : g.change? id change = some after) (hkeep : ∀ n, (change n).id = n.id) :
    after.nodeIds = g.nodeIds := by
  obtain ⟨-, rfl⟩ := change?_eq_some hchange
  exact changeNode_ids id change hkeep g.nodes

theorem WellFormed.change (h : g.WellFormed) {id : String} {change : Node → Node}
    (hchange : g.change? id change = some after) (hkeep : ∀ n, (change n).id = n.id) :
    after.WellFormed := by
  have hids := nodeIds_change hchange hkeep
  obtain ⟨-, rfl⟩ := change?_eq_some hchange
  exact h.of_same hids rfl rfl

theorem WellFormed.clearAnnotations (h : g.WellFormed) : g.clearAnnotations.WellFormed :=
  h.of_same (by simp [Graph.clearAnnotations, nodeIds]) rfl rfl

theorem WellFormed.openPanel (h : g.WellFormed) {id : String}
    (hopen : g.openPanel? id = some after) : after.WellFormed := by
  unfold openPanel? at hopen
  split at hopen
  · rename_i hid
    obtain rfl := Option.some.inj hopen
    refine ⟨h.distinct, h.closed, ?_⟩
    intro other hother
    obtain rfl := Option.some.inj hother
    exact hasNode_iff.mp hid
  · cases hopen

theorem WellFormed.closePanel (h : g.WellFormed) : g.closePanel.WellFormed :=
  ⟨h.distinct, h.closed, by simp [Graph.closePanel]⟩

end Change

/-- What may fail keeps a property of graphs if it does so where it succeeds. -/
theorem getD_of {P : Graph → Prop} {g : Graph} {attempt : Option Graph} (h : P g)
    (hattempt : ∀ after, attempt = some after → P after) : P (attempt.getD g) := by
  cases attempt with
  | none => exact h
  | some after => exact hattempt after rfl

theorem WellFormed.perform {g : Graph} (h : g.WellFormed) (move : Move) (fresh : move.Fresh g) :
    (g.perform move).WellFormed := by
  cases move with
  | add type token => exact h.add type token fresh
  | addFrom catalog key token =>
      simp only [Graph.perform]
      split
      · rename_i id after hadd
        obtain ⟨type, -, heq⟩ := addFrom_eq_ok hadd
        have hid : (g.add type token).1 ∉ g.nodeIds := by
          rw [heq]
          exact fresh id after hadd
        have hafter := h.add type token hid
        rwa [heq] at hafter
      · exact h
  | delete id => exact getD_of h fun _ => h.delete
  | connect connection token =>
      simp only [Graph.perform]
      split
      · rename_i hconnect
        exact h.connect hconnect
      · exact h
  | removeEdge id => exact getD_of h fun _ => h.removeEdge
  | updateParameters id values => exact getD_of h fun _ hchange => h.change hchange fun _ => rfl
  | replaceParameters id values => exact getD_of h fun _ hchange => h.change hchange fun _ => rfl
  | move id position => exact getD_of h fun _ hchange => h.change hchange fun _ => rfl
  | annotate id annotations => exact getD_of h fun _ hchange => h.change hchange fun _ => rfl
  | clearAnnotations => exact h.clearAnnotations
  | openPanel id => exact getD_of h fun _ => h.openPanel
  | closePanel => exact h.closePanel

theorem Reachable.of_perform {g after : Graph} (h : g.Reachable) (move : Move)
    (fresh : move.Fresh g) (heq : g.perform move = after) : after.Reachable :=
  heq ▸ h.step move fresh

theorem Reachable.annotateAll {g : Graph} (h : g.Reachable) (summary : Projection)
    (entries : List (String × Annotations)) : (g.annotateAll summary entries).2.Reachable := by
  induction entries generalizing g summary with
  | nil => exact h
  | cons entry rest ih =>
      simp only [Graph.annotateAll]
      split
      · rename_i hshown
        exact ih (h.of_perform (.annotate _ _) trivial (by rw [perform, hshown]; rfl)) _
      · exact ih h _

/-- Showing a report is clearing the annotations and then annotating node by node. -/
theorem Reachable.project {g : Graph} (h : g.Reachable) (report : RunReport) :
    (g.project report).2.Reachable :=
  (h.step .clearAnnotations trivial).annotateAll _ _

theorem Reachable.wellFormed {g : Graph} (h : g.Reachable) : g.WellFormed := by
  induction h with
  | empty => exact wellFormed_empty
  | ofParts nodes edges => exact wellFormed_ofParts nodes edges
  | step move _ fresh ih => exact ih.perform move fresh

/-! A question and its reply, made of parts of which some are dropped. -/

def question : NodeType where
  key := "query_node"
  name := "QueryNode"
  parameters := [
    { name := "query", dataType := "string", required := true },
    { name := "limit", dataType := "int", required := true, default? := some (.natural 5) }]

def reply : NodeType where
  key := "response_node"
  name := "ResponseNode"

def exchange : Graph := .ofParts
  [{ id := "q", type := question, position := .origin
     parameters := .ofList [("note", .bool true), ("query", .str "")] },
   { id := "r", type := reply, position := .origin, parameters := .empty },
   { id := "q", type := reply, position := .origin, parameters := .empty }]
  [{ id := "e", source := "q", target := "r", sourceHandle := some "output-result" },
   { id := "f", source := "q", target := "nowhere" }]

end NodeCanvas.Graph
