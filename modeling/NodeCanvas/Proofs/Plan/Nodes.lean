import Mathlib.Data.List.Perm.Basic
import NodeCanvas.Proofs.Graph.WellFormed
import NodeCanvas.Proofs.Plan.Parameters

namespace NodeCanvas

namespace Plan

variable {r : Rules}

/-- Planning stops at the first node that cannot be planned. -/
theorem nodesOf_eq_error_iff {seen : Dict String PlanNode} {nodes : List Node} {e : Rejection} :
    nodesOf r seen nodes = .error e ↔ ∃ before n after, nodes = before ++ n :: after ∧
      (∀ m ∈ before, ∃ planned, m.toPlan r = .ok planned) ∧ n.toPlan r = .error e := by
  induction nodes generalizing seen with
  | nil => simp [nodesOf]
  | cons head rest ih =>
      cases hhead : head.toPlan r with
      | error reason =>
          have hstop : nodesOf r seen (head :: rest) = .error reason := by
            rw [nodesOf, hhead]
            rfl
          rw [hstop]
          constructor
          · rintro ⟨⟩
            exact ⟨[], head, rest, rfl, by simp, hhead⟩
          · rintro ⟨_ | ⟨first, before⟩, n, after, hsplit, hbefore, hn⟩
            · obtain ⟨rfl, -⟩ := List.cons.inj hsplit
              rw [hhead] at hn
              rw [Except.error.inj hn]
            · obtain ⟨rfl, -⟩ := List.cons.inj hsplit
              obtain ⟨planned, hplanned⟩ := hbefore head (List.mem_cons_self ..)
              rw [hhead] at hplanned
              cases hplanned
      | ok planned =>
          have hgo : nodesOf r seen (head :: rest) =
              nodesOf r (seen.insert head.id planned) rest := by
            rw [nodesOf, hhead]
            rfl
          rw [hgo, ih]
          constructor
          · rintro ⟨before, n, after, rfl, hbefore, hn⟩
            refine ⟨head :: before, n, after, rfl, ?_, hn⟩
            intro m hm
            rcases List.mem_cons.mp hm with rfl | hm
            · exact ⟨planned, hhead⟩
            · exact hbefore m hm
          · rintro ⟨_ | ⟨first, before⟩, n, after, hsplit, hbefore, hn⟩
            · obtain ⟨rfl, -⟩ := List.cons.inj hsplit
              rw [hhead] at hn
              cases hn
            · obtain ⟨rfl, rfl⟩ := List.cons.inj hsplit
              exact ⟨before, n, after, rfl,
                fun m hm => hbefore m (List.mem_cons_of_mem _ hm), hn⟩

theorem exists_nodesOf_eq_ok (seen : Dict String PlanNode) {nodes : List Node}
    (h : ∀ n ∈ nodes, ∃ planned, n.toPlan r = .ok planned) :
    ∃ d, nodesOf r seen nodes = .ok d := by
  cases hnodes : nodesOf r seen nodes with
  | ok d => exact ⟨d, rfl⟩
  | error e =>
      obtain ⟨before, n, after, rfl, -, hn⟩ := nodesOf_eq_error_iff.mp hnodes
      obtain ⟨planned, hplanned⟩ := h n (by simp)
      rw [hn] at hplanned
      cases hplanned

/-- With distinct ids no node is written over by a later one. -/
theorem get?_of_nodesOf {seen d : Dict String PlanNode} {nodes : List Node}
    (h : nodesOf r seen nodes = .ok d) (hids : (nodes.map (·.id)).Nodup) :
    (∀ n ∈ nodes, ∃ planned, n.toPlan r = .ok planned ∧ d.get? n.id = some planned) ∧
      ∀ id, id ∉ nodes.map (·.id) → d.get? id = seen.get? id := by
  induction nodes generalizing seen with
  | nil =>
      obtain rfl : seen = d := Except.ok.inj h
      exact ⟨by simp, fun _ _ => rfl⟩
  | cons head rest ih =>
      rw [List.map_cons, List.nodup_cons] at hids
      cases hhead : head.toPlan r with
      | error reason =>
          rw [nodesOf, hhead] at h
          cases h
      | ok planned =>
          rw [nodesOf, hhead] at h
          obtain ⟨hmem, hother⟩ := ih h hids.2
          constructor
          · intro n hn
            rcases List.mem_cons.mp hn with rfl | hn
            · refine ⟨planned, hhead, ?_⟩
              rw [hother _ hids.1, Dict.get?_insert_self]
            · exact hmem n hn
          · intro id hid
            rw [List.map_cons, List.mem_cons, not_or] at hid
            rw [hother id hid.2, Dict.get?_insert_of_ne _ _ hid.1]

theorem keys_perm_of_nodesOf {d : Dict String PlanNode} {nodes : List Node}
    (h : nodesOf r .empty nodes = .ok d) (hids : (nodes.map (·.id)).Nodup) :
    d.keys.Perm (nodes.map (·.id)) := by
  obtain ⟨hmem, hother⟩ := get?_of_nodesOf h hids
  refine (List.perm_ext_iff_of_nodup d.keys_nodup hids).mpr ?_
  intro id
  constructor
  · intro hid
    by_contra hnot
    rw [Dict.mem_keys_iff, hother id hnot, Dict.get?_empty] at hid
    cases hid
  · intro hid
    obtain ⟨n, hn, rfl⟩ := List.mem_map.mp hid
    obtain ⟨planned, -, hget⟩ := hmem n hn
    exact Dict.mem_keys_of_get? hget

theorem eq_of_checkCategory_eq_error {nodes : Dict String PlanNode} {role : Role}
    {expected : List String} {e : Rejection} (h : checkCategory nodes role expected = .error e) :
    e = .missingCategory role expected := by
  rw [checkCategory] at h
  split at h
  · cases h
  · exact (Except.error.inj h).symm

end Plan

namespace Graph

theorem isEmpty_iff {g : Graph} : g.isEmpty = true ↔ g.nodes = [] := List.isEmpty_iff

theorem isEmpty_eq_of_length {g other : Graph} (h : g.nodes.length = other.nodes.length) :
    g.isEmpty = other.isEmpty := by
  rw [isEmpty, isEmpty, Bool.eq_iff_iff, List.isEmpty_iff_length_eq_zero,
    List.isEmpty_iff_length_eq_zero, h]

/-- The stages of planning a graph that has nodes, each of them a choice of its own. -/
theorem plan_of_nodes {g : Graph} (h : g.nodes ≠ []) (r : Rules) :
    g.plan r =
      match Plan.nodesOf r .empty g.nodes with
      | .error e => .error e
      | .ok nodes =>
        match Plan.checkCategory nodes .entry r.entryCategories with
        | .error e => .error e
        | .ok () =>
          match Plan.checkCategory nodes .terminal r.terminalCategories with
          | .error e => .error e
          | .ok () => .ok { nodes, edges := g.edges.map fun e => e.toPlan r } := by
  have hempty : g.isEmpty = false := by
    rw [← Bool.not_eq_true, isEmpty_iff]
    exact h
  rw [plan, hempty]
  cases hnodes : Plan.nodesOf r .empty g.nodes with
  | error e => rfl
  | ok nodes =>
      cases hentry : Plan.checkCategory nodes .entry r.entryCategories with
      | error e => simp [hentry, bind, Except.bind]
      | ok _ =>
          cases hterminal : Plan.checkCategory nodes .terminal r.terminalCategories with
          | error e => simp [hentry, hterminal, bind, Except.bind]
          | ok _ => simp [hentry, hterminal, bind, Except.bind, pure, Except.pure]

theorem nodes_ne_nil_of_plan {g : Graph} {r : Rules} {plan : Plan} (h : g.plan r = .ok plan) :
    g.nodes ≠ [] := by
  intro hnil
  rw [Graph.plan, isEmpty_iff.mpr hnil] at h
  cases h

theorem plan_eq_ok {g : Graph} {r : Rules} {plan : Plan} (h : g.plan r = .ok plan) :
    Plan.nodesOf r .empty g.nodes = .ok plan.nodes ∧
      plan.edges = g.edges.map fun e => e.toPlan r := by
  rw [plan_of_nodes (nodes_ne_nil_of_plan h)] at h
  split at h
  · cases h
  · rename_i hok
    split at h
    · cases h
    · split at h
      · cases h
      · obtain rfl := Except.ok.inj h
        exact ⟨hok, rfl⟩

/-- A fault is that of a node, or a category that is missing. -/
theorem plan_eq_error {g : Graph} {r : Rules} {e : Rejection} (hnodes : g.nodes ≠ [])
    (h : g.plan r = .error e) :
    Plan.nodesOf r .empty g.nodes = .error e ∨
      ∃ role expected, e = .missingCategory role expected := by
  rw [plan_of_nodes hnodes] at h
  split at h
  · rename_i reason hfault
    obtain rfl := Except.error.inj h
    exact .inl hfault
  · split at h
    · rename_i hfault
      obtain rfl := Except.error.inj h
      exact .inr ⟨_, _, Plan.eq_of_checkCategory_eq_error hfault⟩
    · split at h
      · rename_i hfault
        obtain rfl := Except.error.inj h
        exact .inr ⟨_, _, Plan.eq_of_checkCategory_eq_error hfault⟩
      · cases h

/-- Whatever is done to a graph, its nodes keep distinct ids, and its edges and its panel are at
nodes that are there. So its plan has one node for each of them, and no edge that leaves it. -/
theorem Reachable.closed_plan_closed {g : Graph} (h : g.Reachable) :
    g.nodeIds.Nodup ∧
    (∀ e ∈ g.edges, e.source ∈ g.nodeIds ∧ e.target ∈ g.nodeIds) ∧
    (∀ id, g.panel = some id → id ∈ g.nodeIds) ∧
    ∀ (r : Rules) (plan : Plan), g.plan r = .ok plan →
      plan.nodes.keys.Perm g.nodeIds ∧
      ∀ e ∈ plan.edges, e.source.node ∈ plan.nodes.keys ∧ e.target.node ∈ plan.nodes.keys := by
  have hg := h.wellFormed
  refine ⟨hg.distinct, hg.closed, hg.panel, ?_⟩
  intro r plan hplan
  obtain ⟨hnodes, hedges⟩ := plan_eq_ok hplan
  have hperm : plan.nodes.keys.Perm g.nodeIds := Plan.keys_perm_of_nodesOf hnodes hg.distinct
  refine ⟨hperm, ?_⟩
  intro planned hplanned
  rw [hedges] at hplanned
  obtain ⟨e, he, rfl⟩ := List.mem_map.mp hplanned
  obtain ⟨hsource, htarget⟩ := hg.closed e he
  exact ⟨hperm.mem_iff.mpr hsource, hperm.mem_iff.mpr htarget⟩

theorem exchange_closed_plan_closed :
    (exchange.perform (.openPanel "q")).Reachable ∧
    (exchange.perform (.openPanel "q")).panel = some "q" ∧
    ∃ plan, (exchange.perform (.openPanel "q")).plan .standard = .ok plan ∧
      plan.nodes.keys.Perm ["q", "r"] ∧
      ∀ e ∈ plan.edges, e.source.node ∈ plan.nodes.keys ∧ e.target.node ∈ plan.nodes.keys := by
  have hreachable : (exchange.perform (.openPanel "q")).Reachable :=
    .step _ (.ofParts _ _) trivial
  have hok : ((exchange.perform (.openPanel "q")).plan .standard).isOk = true := by
    decide +kernel
  refine ⟨hreachable, rfl, ?_⟩
  obtain ⟨-, -, -, hplan⟩ := hreachable.closed_plan_closed
  cases h : (exchange.perform (.openPanel "q")).plan .standard with
  | ok plan => exact ⟨plan, rfl, hplan .standard plan h⟩
  | error e =>
      rw [h] at hok
      cases hok

end Graph

end NodeCanvas
