import NodeCanvas.Proofs.Graph.Sweep

/-!
Cycles, and the warning of them. Nodes that have edges into them from one another are never
visited, and the nodes that a sweep leaves unvisited are such nodes. To walk back along those edges
is to come round to a node a second time.
-/
namespace NodeCanvas.Graph

/-- Edges from one node to another, each from where the one before it ends. -/
def Leads (source target : String) : List Edge → Prop
  | [] => source = target
  | e :: rest => e.source = source ∧ Leads e.target target rest

/-- Edges of the graph that lead from a node back to it and leave no node twice. -/
structure IsCycle (g : Graph) (cycle : List Edge) : Prop where
  edges : cycle ⊆ g.edges
  nonempty : cycle ≠ []
  closed : ∃ id, Leads id id cycle
  simple : (cycle.map (·.source)).Nodup

/-- Into every node of a list there is an edge from a node of the list. -/
def FedWithin (g : Graph) (ids : List String) : Prop :=
  ∀ id ∈ ids, ∃ e ∈ g.edges, e.target = id ∧ e.source ∈ ids

variable {g : Graph}

section Walks

variable {source target : String}

theorem Leads.until {before after : List Edge} {e : Edge}
    (h : Leads source target (before ++ e :: after)) : Leads source e.source before := by
  induction before generalizing source with
  | nil => exact h.1.symm
  | cons f rest ih => exact ⟨h.1, ih h.2⟩

/-- A node that is passed is the first one or is at the end of an edge. -/
theorem Leads.eq_or_exists {edges : List Edge} (h : Leads source target edges) {id : String}
    (hid : id = target ∨ id ∈ edges.map (·.source)) :
    id = source ∨ ∃ e ∈ edges, e.target = id := by
  induction edges generalizing source with
  | nil =>
      obtain rfl : source = target := h
      simpa using hid
  | cons e rest ih =>
      by_cases hfirst : id = e.source
      · exact .inl (hfirst.trans h.1)
      · have hrest : id = target ∨ id ∈ rest.map (·.source) := by simpa [hfirst] using hid
        rcases ih h.2 hrest with rfl | ⟨f, hf, htarget⟩
        · exact .inr ⟨e, List.mem_cons_self .., rfl⟩
        · exact .inr ⟨f, List.mem_cons_of_mem _ hf, htarget⟩

end Walks

theorem IsCycle.fedWithin {cycle : List Edge} (h : g.IsCycle cycle) :
    g.FedWithin (cycle.map (·.source)) := by
  intro id hid
  obtain ⟨start, hclosed⟩ := h.closed
  have hinto : ∃ e ∈ cycle, e.target = id := by
    cases cycle with
    | nil => simp at hid
    | cons e rest =>
        have hrest : id = start ∨ id ∈ rest.map (·.source) := by
          simpa [hclosed.1] using hid
        rcases hclosed.2.eq_or_exists hrest with rfl | ⟨f, hf, htarget⟩
        · exact ⟨e, List.mem_cons_self .., rfl⟩
        · exact ⟨f, List.mem_cons_of_mem _ hf, htarget⟩
  obtain ⟨e, he, htarget⟩ := hinto
  exact ⟨e, h.edges he, htarget, List.mem_map.mpr ⟨e, he, rfl⟩⟩

/-- A trail is walked on from its first node backwards, until it meets itself. -/
theorem FedWithin.exists_isCycle_of_leads {ids : List String} (h : g.FedWithin ids)
    {trail : List Edge} {first last : String} (hfirst : first ∈ ids) (hedges : trail ⊆ g.edges)
    (hleads : Leads first last trail) (hsimple : (trail.map (·.source)).Nodup)
    (hwithin : trail.map (·.source) ⊆ ids) : ∃ cycle, g.IsCycle cycle := by
  obtain ⟨e, he, rfl, hsource⟩ := h first hfirst
  by_cases hmet : e.source ∈ trail.map (·.source)
  · obtain ⟨f, hf, hsame⟩ := List.mem_map.mp hmet
    obtain ⟨before, after, rfl⟩ := List.append_of_mem hf
    -- The trail up to the node that is met again is closed by the new edge.
    have hback : Leads e.target e.source before := hsame ▸ hleads.until
    rw [List.map_append, List.map_cons, List.nodup_middle, List.nodup_cons] at hsimple
    have hbefore : e.source ∉ before.map (·.source) := by
      rw [← hsame]
      exact fun hmem => hsimple.1 (List.mem_append_left _ hmem)
    refine ⟨e :: before, ?_, by simp, ⟨e.source, rfl, hback⟩, ?_⟩
    · exact List.cons_subset.mpr ⟨he, fun x hx => hedges (List.mem_append_left _ hx)⟩
    · exact List.nodup_cons.mpr ⟨hbefore, hsimple.2.of_append_left⟩
  · have hnodup : ((e :: trail).map (·.source)).Nodup := List.nodup_cons.mpr ⟨hmet, hsimple⟩
    have hsubset : (e :: trail).map (·.source) ⊆ ids := List.cons_subset.mpr ⟨hsource, hwithin⟩
    have hlength := (List.subperm_of_subset hnodup hsubset).length_le
    exact h.exists_isCycle_of_leads hsource (List.cons_subset.mpr ⟨he, hedges⟩) ⟨rfl, hleads⟩
      hnodup hsubset
termination_by ids.length - trail.length
decreasing_by
  rw [List.length_map, List.length_cons] at hlength
  rw [List.length_cons]
  omega

theorem FedWithin.exists_isCycle {ids : List String} (h : g.FedWithin ids) (hne : ids ≠ []) :
    ∃ cycle, g.IsCycle cycle := by
  obtain ⟨id, hid⟩ := List.exists_mem_of_ne_nil ids hne
  have hnone : Leads id id [] := rfl
  exact h.exists_isCycle_of_leads hid (List.nil_subset _) hnone (by simp) (by simp)

namespace Sweep

variable {s : Sweep} {ids : List String}

/-- What is unvisited when nothing waits has an uncrossed edge into it. -/
theorem Steady.fedWithin (hg : g.WellFormed) (h : s.Steady g) (hwaiting : s.waiting = []) :
    g.FedWithin (g.nodeIds.filter fun id => !s.visited.contains id) := by
  intro id hid
  obtain ⟨hnode, hunvisited⟩ : id ∈ g.nodeIds ∧ id ∉ s.visited := by simpa using hid
  have hinto : ∃ e ∈ s.ahead g, e.target = id := by
    by_contra hnone
    push Not at hnone
    have hmem := (h.mem_iff id).mpr ⟨hnode, hnone⟩
    rw [hwaiting, List.append_nil] at hmem
    exact hunvisited hmem
  obtain ⟨e, he, htarget⟩ := hinto
  obtain ⟨hedge, hahead⟩ := List.mem_filter.mp he
  exact ⟨e, hedge, htarget, List.mem_filter.mpr ⟨(hg.closed e hedge).1, hahead⟩⟩

/-- Unvisited nodes with edges into them from one another do not come to wait. -/
theorem Steady.not_mem_of_fedWithin (h : s.Steady g) (hfed : g.FedWithin ids)
    (hids : ∀ id ∈ ids, id ∉ s.visited) : ∀ id ∈ ids, id ∉ s.visited ++ s.waiting := by
  intro id hid hmem
  obtain ⟨e, he, htarget, hsource⟩ := hfed id hid
  have hahead : e ∈ s.ahead g := List.mem_filter.mpr ⟨he, by simpa using hids _ hsource⟩
  exact ((h.mem_iff id).mp hmem).2 e hahead htarget

theorem visited_visit_subset (g : Graph) (s : Sweep) :
    (visit g s).visited ⊆ s.visited ++ s.waiting := by
  cases hwaiting : s.waiting with
  | nil => simp [visit_of_waiting_nil hwaiting]
  | cons id rest => simp [visit, hwaiting]

theorem Steady.run_avoids (hg : g.WellFormed) (h : s.Steady g) (hfed : g.FedWithin ids)
    (hids : ∀ id ∈ ids, id ∉ s.visited) (rounds : Nat) :
    ∀ id ∈ ids, id ∉ (Sweep.run g rounds s).visited := by
  induction rounds generalizing s with
  | zero => exact hids
  | succ rounds ih =>
      -- What is visited next was waiting, and none of the nodes waits.
      refine ih (h.visit hg).2 fun id hid hmem => ?_
      exact h.not_mem_of_fedWithin hfed hids id hid (visited_visit_subset g s hmem)

end Sweep

/-- A sweep finds out whether there is a cycle, from whichever root it starts. -/
theorem WellFormed.hasCycle_iff (hg : g.WellFormed) {order : List String}
    (horder : order.Perm g.roots) : g.hasCycle order = true ↔ ∃ cycle, g.IsCycle cycle := by
  have hstart := Sweep.steady_start hg horder
  obtain ⟨-, hend⟩ := hstart.run hg g.nodes.length
  have hlength : g.nodes.length = g.nodeIds.length := (List.length_map ..).symm
  rw [hasCycle, decide_eq_true_iff]
  generalize hs : Sweep.run g g.nodes.length (Sweep.start g order) = s at hend ⊢
  constructor
  · intro hless
    have hwaiting : s.waiting = [] := hs ▸ hstart.waiting_run hg
    refine (hend.fedWithin hg hwaiting).exists_isCycle fun hnone => ?_
    have hall : g.nodeIds ⊆ s.visited := by
      intro id hid
      have hvisited := List.filter_eq_nil_iff.mp hnone id hid
      simpa using hvisited
    have hle := (List.subperm_of_subset hg.distinct hall).length_le
    omega
  · rintro ⟨cycle, hcycle⟩
    obtain ⟨e, he⟩ := List.exists_mem_of_ne_nil cycle hcycle.nonempty
    have hunvisited : e.source ∉ s.visited := by
      rw [← hs]
      refine hstart.run_avoids hg hcycle.fedWithin ?_ _ _ (List.mem_map.mpr ⟨e, he, rfl⟩)
      exact fun id _ hmem => List.not_mem_nil hmem
    have hnodup : (e.source :: s.visited).Nodup :=
      List.nodup_cons.mpr ⟨hunvisited, hend.nodup.of_append_left⟩
    have hsubset : e.source :: s.visited ⊆ g.nodeIds :=
      List.cons_subset.mpr ⟨(hg.closed e (hcycle.edges he)).1,
        fun id hid => hend.subset (List.mem_append_left _ hid)⟩
    have hle := (List.subperm_of_subset hnodup hsubset).length_le
    rw [List.length_cons] at hle
    omega

theorem cycle_not_mem_duplicates (before edges : List Edge) :
    Warning.cycle ∉ duplicates before edges := by
  induction edges generalizing before with
  | nil => simp [duplicates]
  | cons e rest ih =>
      rw [duplicates]
      split
      · simpa using ih before
      · exact ih _

theorem cycle_not_mem_isolated (g : Graph) : Warning.cycle ∉ g.isolated := by
  unfold isolated
  split <;> simp

/-- Whatever the order of the roots, the sweep takes no count below zero, is over after as many
visits as there are nodes, and visits no node twice. A cycle is warned of where there is one, once
and before all else. -/
theorem Reachable.warningsFrom_spec (h : g.Reachable) {order : List String}
    (horder : order.Perm g.roots) :
    (∃ s, Sweep.run? g g.nodes.length (Sweep.start g order) = some s ∧
      s = Sweep.run g g.nodes.length (Sweep.start g order) ∧
      s.waiting = [] ∧ s.visited.Nodup ∧ s.visited ⊆ g.nodeIds) ∧
    (.cycle ∈ g.warningsFrom order ↔ ∃ cycle, g.IsCycle cycle) ∧
    (.cycle ∈ g.warningsFrom order →
      ∃ rest, g.warningsFrom order = .cycle :: rest ∧ .cycle ∉ rest) ∧
    g.warningsFrom order = g.warnings := by
  have hg := h.wellFormed
  have hstart := Sweep.steady_start hg horder
  obtain ⟨hchecked, hend⟩ := hstart.run hg g.nodes.length
  have hcycle := hg.hasCycle_iff horder
  have hsame : g.hasCycle order = g.hasCycle g.roots := by
    rw [Bool.eq_iff_iff, hcycle, hg.hasCycle_iff (.refl _)]
  have hothers : .cycle ∉ duplicates [] g.edges ++ g.isolated := by
    rw [List.mem_append, not_or]
    exact ⟨cycle_not_mem_duplicates [] g.edges, cycle_not_mem_isolated g⟩
  have hwarned : .cycle ∈ g.warningsFrom order ↔ g.hasCycle order = true := by
    rw [warningsFrom, List.append_assoc, List.mem_append, or_iff_left hothers]
    cases g.hasCycle order <;> simp
  refine ⟨⟨_, hchecked, rfl, hstart.waiting_run hg, hend.nodup.of_append_left,
    fun id hid => hend.subset (List.mem_append_left _ hid)⟩, hwarned.trans hcycle, ?_, ?_⟩
  · intro hmem
    refine ⟨duplicates [] g.edges ++ g.isolated, ?_, hothers⟩
    rw [warningsFrom, hwarned.mp hmem]
    rfl
  · rw [warnings, warningsFrom, warningsFrom, hsame]

def tangle : Graph := .ofParts
  (["a", "b", "c", "d"].map fun id =>
    { id, type := reply, position := .origin, parameters := .empty })
  [{ id := "e", source := "a", target := "b" }, { id := "f", source := "a", target := "b" },
   { id := "g", source := "b", target := "c" }, { id := "h", source := "c", target := "c" }]

theorem tangle_warningsFrom_spec :
    tangle.Reachable ∧ ["d", "a"].Perm tangle.roots ∧
    tangle.IsCycle [{ id := "h", source := "c", target := "c" }] ∧
    (∃ s, Sweep.run? tangle 4 (Sweep.start tangle ["d", "a"]) = some s ∧ s.waiting = [] ∧
      s.visited = ["d", "a", "b"]) ∧
    ∃ rest, tangle.warningsFrom ["d", "a"] = .cycle :: rest ∧ .cycle ∉ rest := by
  have hreachable : tangle.Reachable := .ofParts _ _
  have horder : ["d", "a"].Perm tangle.roots := by decide
  have hcycle : tangle.IsCycle [{ id := "h", source := "c", target := "c" }] :=
    ⟨by decide, by simp, ⟨"c", rfl, rfl⟩, by simp⟩
  obtain ⟨⟨s, hchecked, hs, hwaiting, -, -⟩, hiff, hfirst, -⟩ :=
    hreachable.warningsFrom_spec horder
  refine ⟨hreachable, horder, hcycle, ⟨s, hchecked, hwaiting, ?_⟩, hfirst (hiff.mpr ⟨_, hcycle⟩)⟩
  rw [hs]
  decide +kernel

end NodeCanvas.Graph
