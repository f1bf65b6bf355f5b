import Mathlib.Data.Finset.Card
import NodeCanvas.Proofs.Graph.Cycle

namespace NodeCanvas

/-- The handles that an edge joins, with the nodes that they belong to. -/
def Edge.joint (e : Edge) : String × Option String × String × Option String :=
  (e.source, e.sourceHandle, e.target, e.targetHandle)

theorem Edge.parallel_iff {e f : Edge} : e.parallel f = true ↔ f.joint = e.joint := by
  simp only [parallel, joint, Bool.and_eq_true, beq_iff_eq, Prod.mk.injEq, and_assoc]
  constructor
  · rintro ⟨hsource, hsourceHandle, htarget, htargetHandle⟩
    exact ⟨hsource.symm, hsourceHandle.symm, htarget.symm, htargetHandle.symm⟩
  · rintro ⟨hsource, hsourceHandle, htarget, htargetHandle⟩
    exact ⟨hsource.symm, hsourceHandle.symm, htarget.symm, htargetHandle.symm⟩

namespace Graph

/-- The warning of an edge at a place, with the first edge before it that joins the same. -/
def repeatAt? (edges : List Edge) (place : Nat) (e : Edge) : Option Warning :=
  ((edges.take place).find? fun f => f.joint = e.joint).map fun first =>
    .duplicateEdge e.id first.id

def repeats (g : Graph) : List Warning :=
  g.edges.zipIdx.filterMap fun entry => repeatAt? g.edges entry.2 entry.1

/-- One warning for each node that is at the end of no edge, unless it is the only node. -/
def lone (g : Graph) : List Warning :=
  if 2 ≤ g.nodes.length then
    (g.nodes.filter fun n => ∀ e ∈ g.edges, e.source ≠ n.id ∧ e.target ≠ n.id).map fun n =>
      .isolatedNode n.id
  else []

/-- Among the edges that were kept, those are found that are the first to join the same. -/
def KeepsFirsts (before kept : List Edge) : Prop :=
  ∀ e : Edge, (kept.find? fun f => e.parallel f) = before.find? fun f => f.joint = e.joint

section Scan

variable {before kept : List Edge}

theorem KeepsFirsts.of_repeat (h : KeepsFirsts before kept) {e first : Edge}
    (hfirst : (kept.find? fun f => e.parallel f) = some first) :
    KeepsFirsts (before ++ [e]) kept := by
  intro other
  rw [h, List.find?_append]
  by_cases hjoint : e.joint = other.joint
  · rw [h, hjoint] at hfirst
    rw [hfirst, Option.some_or]
  · rw [List.find?_singleton, if_neg (by simpa using hjoint), Option.or_none]

theorem KeepsFirsts.of_new (h : KeepsFirsts before kept) (e : Edge) :
    KeepsFirsts (before ++ [e]) (kept ++ [e]) := by
  intro other
  rw [List.find?_append, List.find?_append, h]
  congr 1
  simp [List.find?_singleton, Edge.parallel_iff]

theorem duplicates_eq (h : KeepsFirsts before kept) (edges : List Edge) :
    duplicates kept edges = (edges.zipIdx before.length).filterMap fun entry =>
      repeatAt? (before ++ edges) entry.2 entry.1 := by
  induction edges generalizing before kept with
  | nil => rfl
  | cons e rest ih =>
      have hhere : repeatAt? (before ++ e :: rest) before.length e =
          (kept.find? fun f => e.parallel f).map fun first => .duplicateEdge e.id first.id := by
        rw [repeatAt?, List.take_left, h e]
      have hrest (kept : List Edge) (hkept : KeepsFirsts (before ++ [e]) kept) := ih hkept
      simp only [List.length_append, List.length_singleton, List.append_assoc,
        List.singleton_append] at hrest
      rw [duplicates, List.zipIdx_cons, List.filterMap_cons, hhere]
      cases hfirst : kept.find? fun f => e.parallel f with
      | some first => exact congrArg _ (hrest kept (h.of_repeat hfirst))
      | none => exact hrest _ (h.of_new e)

/-- An edge is told as a repetition just if it adds no new way of joining handles. -/
theorem length_duplicates (kept edges : List Edge) :
    (duplicates kept edges).length + ((kept ++ edges).map Edge.joint).toFinset.card =
      (kept.map Edge.joint).toFinset.card + edges.length := by
  induction edges generalizing kept with
  | nil => simp [duplicates]
  | cons e rest ih =>
      rw [duplicates]
      cases hfirst : kept.find? fun f => e.parallel f with
      | some first =>
          have hold : e.joint ∈ (kept ++ rest).map Edge.joint := by
            have hmem := List.mem_of_find?_eq_some hfirst
            have hjoint := Edge.parallel_iff.mp (List.find?_some hfirst)
            exact List.mem_map.mpr ⟨first, List.mem_append_left _ hmem, hjoint⟩
          have hsame : ((kept ++ e :: rest).map Edge.joint).toFinset =
              ((kept ++ rest).map Edge.joint).toFinset := by
            rw [List.toFinset_eq_of_perm _ _ (List.perm_middle.map _), List.map_cons,
              List.toFinset_cons, Finset.insert_eq_of_mem (List.mem_toFinset.mpr hold)]
          have hrest := ih kept
          rw [hsame, List.length_cons, List.length_cons]
          omega
      | none =>
          have hnew : e.joint ∉ (kept.map Edge.joint).toFinset := by
            rw [List.mem_toFinset, List.mem_map]
            rintro ⟨f, hf, hjoint⟩
            exact List.find?_eq_none.mp hfirst f hf (Edge.parallel_iff.mpr hjoint)
          have hcard : ((kept ++ [e]).map Edge.joint).toFinset.card =
              (kept.map Edge.joint).toFinset.card + 1 := by
            rw [List.toFinset_eq_of_perm _ _ ((List.perm_append_singleton e kept).map _),
              List.map_cons, List.toFinset_cons, Finset.card_insert_of_notMem hnew]
          have hrest := ih (kept ++ [e])
          rw [List.append_assoc, List.singleton_append, hcard] at hrest
          rw [hrest, List.length_cons]
          omega

end Scan

theorem isolated_eq (g : Graph) : g.isolated = g.lone := by
  have hends : ∀ n ∈ g.nodes,
      (!g.edges.any fun e => e.source == n.id || e.target == n.id) =
        decide (∀ e ∈ g.edges, e.source ≠ n.id ∧ e.target ≠ n.id) := by
    intro n _
    rw [Bool.eq_iff_iff]
    simp
  rw [isolated, lone, nodeIds, List.filter_map, List.map_map]
  exact if_congr Iff.rfl (congrArg _ (List.filter_congr hends)) rfl

/-- Of the warnings that are not about cycles, in whatever order the sweep for cycles starts, the
first are one for each edge that joins what an edge before it joins, which name the first such edge
and are as many as there are edges more than ways of joining handles. The others are one for each
node at the end of no edge, if there are two nodes at least. -/
theorem other_warnings_exact (g : Graph) :
    (g.warnings.filter fun w => w ≠ .cycle) = g.repeats ++ g.lone ∧
    (∀ order, ((g.warningsFrom order).filter fun w => w ≠ .cycle) = g.repeats ++ g.lone) ∧
    g.repeats.length + (g.edges.map Edge.joint).toFinset.card = g.edges.length := by
  have hnone : KeepsFirsts [] [] := fun _ => rfl
  have hrepeats : duplicates [] g.edges = g.repeats := duplicates_eq hnone g.edges
  have hothers : ∀ order,
      ((g.warningsFrom order).filter fun w => w ≠ .cycle) = g.repeats ++ g.lone := by
    intro order
    have hkept : ∀ w ∈ g.repeats ++ g.lone, decide (w ≠ .cycle) = true := by
      rw [← hrepeats, ← isolated_eq]
      intro w hw
      rw [decide_eq_true_iff]
      rintro rfl
      rcases List.mem_append.mp hw with hw | hw
      · exact cycle_not_mem_duplicates [] g.edges hw
      · exact cycle_not_mem_isolated g hw
    have hcycle : ((if g.hasCycle order then [Warning.cycle] else []).filter
        fun w => decide (w ≠ .cycle)) = [] := by
      split <;> rfl
    rw [warningsFrom, hrepeats, isolated_eq, List.append_assoc, List.filter_append, hcycle,
      List.nil_append, List.filter_eq_self.mpr hkept]
  refine ⟨hothers g.roots, hothers, ?_⟩
  have hlength := length_duplicates [] g.edges
  rw [hrepeats] at hlength
  simpa using hlength

end Graph

end NodeCanvas
