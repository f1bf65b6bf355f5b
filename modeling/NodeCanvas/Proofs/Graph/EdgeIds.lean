import NodeCanvas.Proofs.Document.Restoring

namespace NodeCanvas.Graph

/-- An edge that the operation makes gets an id that no edge has. -/
def Move.FreshEdge (g : Graph) : Move → Prop
  | .connect connection token =>
      ∀ id after, g.connect connection token = .ok (id, after) → id ∉ g.edgeIds
  | _ => True

/-- What operations make of a graph while new edges get new ids. -/
inductive Course (g : Graph) : Graph → Prop
  | rest : Course g g
  | step {after : Graph} (move : Move) (h : Course g after) (fresh : move.FreshEdge after) :
      Course g (after.perform move)

/-- No two edges have one id, and removing by an id takes away the edge that has it and no other,
or nothing where none has it. -/
structure Identified (g : Graph) : Prop where
  distinct : g.edgeIds.Nodup
  removes : ∀ id ∈ g.edgeIds, ∃ before e behind, g.edges = before ++ e :: behind ∧ e.id = id ∧
    g.removeEdge? id = some { g with edges := before ++ behind }
  keeps : ∀ id, id ∉ g.edgeIds → g.removeEdge? id = none

variable {g : Graph} {id : String}

theorem isSome_edge?_iff : (g.edge? id).isSome = true ↔ id ∈ g.edgeIds := by
  simp [edge?, edgeIds, List.find?_isSome]

theorem removeEdge?_of_mem (h : id ∈ g.edgeIds) :
    g.removeEdge? id = some { g with edges := g.edges.filter fun e => e.id != id } :=
  if_pos (isSome_edge?_iff.mpr h)

theorem removeEdge?_of_not_mem (h : id ∉ g.edgeIds) : g.removeEdge? id = none :=
  if_neg fun hedge => h (isSome_edge?_iff.mp hedge)

theorem filter_split {before behind : List Edge} {e : Edge}
    (h : ((before ++ e :: behind).map (·.id)).Nodup) :
    (before ++ e :: behind).filter (fun f => f.id != e.id) = before ++ behind := by
  rw [List.map_append, List.map_cons, List.nodup_middle, List.nodup_cons, ← List.map_append] at h
  have hothers : ∀ f ∈ before ++ behind, (f.id != e.id) = true := by
    intro f hf
    rw [bne_iff_ne]
    exact fun heq => h.1 (List.mem_map.mpr ⟨f, hf, heq⟩)
  rw [List.filter_append, List.filter_cons_of_neg (by simp), ← List.filter_append,
    List.filter_eq_self.mpr hothers]

theorem identified_iff : g.Identified ↔ g.edgeIds.Nodup := by
  constructor
  · exact Identified.distinct
  · intro h
    refine ⟨h, ?_, fun id => removeEdge?_of_not_mem⟩
    intro id hid
    obtain ⟨e, he, rfl⟩ := List.mem_map.mp hid
    obtain ⟨before, behind, hsplit⟩ := List.append_of_mem he
    refine ⟨before, e, behind, hsplit, rfl, ?_⟩
    rw [edgeIds, hsplit] at h
    rw [removeEdge?_of_mem hid, hsplit, filter_split h]

/-- As many edges are removed as have the id. -/
theorem length_removeEdge (g : Graph) (id : String) :
    (g.perform (.removeEdge id)).edges.length + g.edgeIds.count id = g.edges.length := by
  rw [perform]
  by_cases hid : id ∈ g.edgeIds
  · rw [removeEdge?_of_mem hid, Option.getD_some, edgeIds, List.count_eq_countP, List.countP_map,
      ← List.countP_eq_length_filter, Nat.add_comm,
      g.edges.length_eq_countP_add_countP ((· == id) ∘ (·.id))]
    congr 2
    funext e
    rw [Bool.eq_iff_iff]
    simp
  · rw [removeEdge?_of_not_mem hid, Option.getD_none, List.count_eq_zero_of_not_mem hid,
      Nat.add_zero]

/-! What an operation does to the edges. -/

theorem sublist_getD {attempt : Option Graph}
    (h : ∀ after, attempt = some after → after.edges.Sublist g.edges) :
    (attempt.getD g).edges.Sublist g.edges :=
  getD_of (P := fun after => after.edges.Sublist g.edges) (List.Sublist.refl _) h

theorem sublist_change {change : Node → Node} {after : Graph}
    (h : g.change? id change = some after) : after.edges.Sublist g.edges := by
  obtain ⟨-, rfl⟩ := change?_eq_some h
  exact List.Sublist.refl _

/-- An operation drops edges, or adds one that has the id of none. -/
theorem edges_perform (move : Move) (fresh : move.FreshEdge g) :
    (g.perform move).edges.Sublist g.edges ∨
      ∃ e, (g.perform move).edges = g.edges ++ [e] ∧ e.id ∉ g.edgeIds := by
  cases move with
  | add type token => exact .inl (List.Sublist.refl _)
  | addFrom catalog key token =>
      simp only [perform]
      split
      · rename_i hadd
        obtain ⟨type, -, heq⟩ := addFrom_eq_ok hadd
        obtain ⟨-, rfl⟩ := Prod.mk.inj heq
        exact .inl (List.Sublist.refl _)
      · exact .inl (List.Sublist.refl _)
  | delete id =>
      refine .inl (sublist_getD fun after hdelete => ?_)
      obtain ⟨-, rfl⟩ := delete?_eq_some hdelete
      exact List.filter_sublist
  | connect connection token =>
      simp only [perform]
      split
      · rename_i id after hconnect
        have hid := fresh id after hconnect
        obtain ⟨-, -, rfl⟩ := connect_eq_ok hconnect
        exact .inr ⟨_, rfl, hid⟩
      · exact .inl (List.Sublist.refl _)
  | removeEdge id =>
      refine .inl (sublist_getD fun after hremove => ?_)
      obtain ⟨-, rfl⟩ := removeEdge?_eq_some hremove
      exact List.filter_sublist
  | updateParameters id values => exact .inl (sublist_getD fun _ => sublist_change)
  | replaceParameters id values => exact .inl (sublist_getD fun _ => sublist_change)
  | move id position => exact .inl (sublist_getD fun _ => sublist_change)
  | annotate id annotations => exact .inl (sublist_getD fun _ => sublist_change)
  | clearAnnotations => exact .inl (List.Sublist.refl _)
  | openPanel id =>
      refine .inl (sublist_getD fun after hopen => ?_)
      unfold openPanel? at hopen
      split at hopen
      · obtain rfl := Option.some.inj hopen
        exact List.Sublist.refl _
      · cases hopen
  | closePanel => exact .inl (List.Sublist.refl _)

theorem nodup_edgeIds_perform (h : g.edgeIds.Nodup) (move : Move) (fresh : move.FreshEdge g) :
    (g.perform move).edgeIds.Nodup := by
  rcases edges_perform move fresh with hdropped | ⟨e, hadded, hnew⟩
  · exact h.sublist (hdropped.map _)
  · rw [edgeIds, hadded, List.map_append]
    exact h.append (List.nodup_singleton _) (by simpa using hnew)

theorem Course.nodup_edgeIds {after : Graph} (h : g.Course after) (hids : g.edgeIds.Nodup) :
    after.edgeIds.Nodup := by
  induction h with
  | rest => exact hids
  | step move _ fresh ih => exact nodup_edgeIds_perform ih move fresh

/-- The edges of a graph that is made of parts: those whose ends are there. -/
theorem edges_ofParts (nodes : List Node) (edges : List Edge) :
    (ofParts nodes edges).edges = edges.filter fun e =>
      e.source ∈ nodes.map (·.id) ∧ e.target ∈ nodes.map (·.id) := by
  refine List.filter_congr fun e _ => ?_
  rw [Bool.eq_iff_iff, Bool.and_eq_true, List.contains_iff_mem, List.contains_iff_mem,
    mem_ids_distinctNodes, mem_ids_distinctNodes]
  simp

/-- Whatever operations make of a graph that is made of parts, no two of its edges have one id and
an id removes one edge, just if no two of the parts' edges that are kept have one id. In any graph
an id removes all the edges that have it. -/
theorem ofParts_identified_iff (nodes : List Node) (edges : List Edge) :
    ((∀ g, (ofParts nodes edges).Course g → g.Identified) ↔
      ((edges.filter fun e => e.source ∈ nodes.map (·.id) ∧ e.target ∈ nodes.map (·.id)).map
        (·.id)).Nodup) ∧
    ∀ g id, (perform g (.removeEdge id)).edges.length + g.edgeIds.count id = g.edges.length := by
  rw [← edges_ofParts]
  refine ⟨?_, length_removeEdge⟩
  constructor
  · intro h
    exact (h _ .rest).distinct
  · intro h g hcourse
    exact identified_iff.mpr (hcourse.nodup_edgeIds h)

def twinEdges : Graph := .ofParts
  [{ id := "q", type := question, position := .origin, parameters := .empty },
   { id := "r", type := reply, position := .origin, parameters := .empty }]
  [{ id := "e", source := "q", target := "r" }, { id := "e", source := "r", target := "q" }]

/-- Neither of them can be told from the other, and removing one removes both. -/
theorem twinEdges_removed_together :
    twinEdges.Reachable ∧ ¬ twinEdges.edgeIds.Nodup ∧ ¬ twinEdges.Identified ∧
    twinEdges.edges.length = 2 ∧
    twinEdges.removeEdge? "e" = some { twinEdges with edges := [] } := by
  have hids : ¬ twinEdges.edgeIds.Nodup := by decide
  exact ⟨.ofParts _ _, hids, fun h => hids h.distinct, by decide, by decide +kernel⟩

end NodeCanvas.Graph
