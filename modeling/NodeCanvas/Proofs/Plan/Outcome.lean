import NodeCanvas.Proofs.Plan.Names
import NodeCanvas.Proofs.Plan.Nodes

namespace NodeCanvas

structure Edge.Becomes (e : Edge) (r : Rules) (planned : PlanEdge) : Prop where
  source : planned.source.node = e.source
  sourcePort : Rules.NamesPort r.outputPrefix r.fallbackOutput e.sourceHandle planned.source.port
  target : planned.target.node = e.target
  targetPort : Rules.NamesPort r.inputPrefix r.fallbackInput e.targetHandle planned.target.port

/-- A plan that has the nodes of a graph, each with its parameters completed, and the edges of
the graph in their order. -/
structure Plan.Realizes (plan : Plan) (g : Graph) (r : Rules) : Prop where
  ids : plan.nodes.keys.Perm g.nodeIds
  nodes : ∀ n ∈ g.nodes, ∃ planned, plan.nodes.get? n.id = some planned ∧
    planned.registryKey = r.registryKey n.type.name ∧ n.Completes r planned.parameters
  edges : List.Forall₂ (fun e planned => e.Becomes r planned) g.edges plan.edges

theorem Edge.becomes_toPlan (e : Edge) (r : Rules) : e.Becomes r (e.toPlan r) where
  source := rfl
  sourcePort := Rules.namesPort_iff.mpr rfl
  target := rfl
  targetPort := Rules.namesPort_iff.mpr rfl

namespace Graph

def Complete (g : Graph) (r : Rules) : Prop :=
  ∀ n ∈ g.nodes, ∀ p ∈ n.type.parameters, ¬ n.Lacks r p

/-- The first lack in the order of the nodes, and of the parameters that the node declares. -/
def FirstLack (g : Graph) (r : Rules) (id name parameter : String) : Prop :=
  ∃ before n after early p late,
    g.nodes = before ++ n :: after ∧ n.type.parameters = early ++ p :: late ∧
    (∀ m ∈ before, ∀ q ∈ m.type.parameters, ¬ m.Lacks r q) ∧ (∀ q ∈ early, ¬ n.Lacks r q) ∧
    n.Lacks r p ∧ id = n.id ∧ name = n.type.name ∧ parameter = p.name

/-- Some category is asked for, and no node has any. -/
def Misses (g : Graph) (r : Rules) (expected : List String) : Prop :=
  expected ≠ [] ∧ ∀ n ∈ g.nodes, ∀ category ∈ expected,
    ¬ Text.SameUpToCase category (r.registryKey n.type.name)

instance (g : Graph) (r : Rules) (expected : List String) : Decidable (g.Misses r expected) :=
  inferInstanceAs (Decidable (_ ∧ _))

section Faults

variable {g : Graph} {r : Rules}
  (hnames : ∀ n ∈ g.nodes, (n.type.parameters.map (·.name)).Nodup)

include hnames

theorem exists_toPlan_iff {n : Node} (hn : n ∈ g.nodes) :
    (∃ planned, n.toPlan r = .ok planned) ↔ ∀ p ∈ n.type.parameters, ¬ n.Lacks r p := by
  constructor
  · rintro ⟨planned, hplanned⟩
    by_contra hlacks
    push Not at hlacks
    obtain ⟨p, hp, hlack⟩ := hlacks
    rw [Node.toPlan_eq (hnames n hn)] at hplanned
    split at hplanned
    · cases hplanned
    · rename_i hnone
      exact List.find?_eq_none.mp hnone p hp (Node.lacks_iff.mpr hlack)
  · intro hlacks
    obtain ⟨planned, hplanned, -⟩ := Node.toPlan_eq_ok (hnames n hn) hlacks
    exact ⟨planned, hplanned⟩

theorem nodesOf_eq_error_iff_firstLack {e : Rejection} :
    Plan.nodesOf r .empty g.nodes = .error e ↔
      ∃ id name parameter, e = .missingParameter id name parameter ∧
        g.FirstLack r id name parameter := by
  rw [Plan.nodesOf_eq_error_iff]
  constructor
  · rintro ⟨before, n, after, hsplit, hbefore, hn⟩
    have hmem : n ∈ g.nodes := by simp [hsplit]
    obtain ⟨early, p, late, hparameters, hearly, hlack, rfl⟩ :=
      (Node.toPlan_eq_error_iff (hnames n hmem)).mp hn
    refine ⟨n.id, n.type.name, p.name, rfl, before, n, after, early, p, late, hsplit,
      hparameters, ?_, hearly, hlack, rfl, rfl, rfl⟩
    intro m hm
    exact (exists_toPlan_iff hnames (by simp [hsplit, hm])).mp (hbefore m hm)
  · rintro ⟨id, name, parameter, rfl, before, n, after, early, p, late, hsplit, hparameters,
      hbefore, hearly, hlack, rfl, rfl, rfl⟩
    have hmem : n ∈ g.nodes := by simp [hsplit]
    refine ⟨before, n, after, hsplit, ?_, ?_⟩
    · intro m hm
      exact (exists_toPlan_iff hnames (by simp [hsplit, hm])).mpr (hbefore m hm)
    · exact (Node.toPlan_eq_error_iff (hnames n hmem)).mpr
        ⟨early, p, late, hparameters, hearly, hlack, rfl⟩

theorem exists_nodesOf_of_complete (hcomplete : g.Complete r) :
    ∃ d, Plan.nodesOf r .empty g.nodes = .ok d :=
  Plan.exists_nodesOf_eq_ok _ fun n hn => (exists_toPlan_iff hnames hn).mpr (hcomplete n hn)

/-- Where some node lacks a parameter, there is a first lack. -/
theorem exists_firstLack_iff (hids : g.nodeIds.Nodup) :
    (∃ id name parameter, g.FirstLack r id name parameter) ↔
      ∃ n ∈ g.nodes, ∃ p ∈ n.type.parameters, n.Lacks r p := by
  constructor
  · rintro ⟨_, _, _, before, n, after, early, p, late, hsplit, hparameters, -, -, hlack, -⟩
    exact ⟨n, by simp [hsplit], p, by simp [hparameters], hlack⟩
  · rintro ⟨n, hn, p, hp, hlack⟩
    cases hnodes : Plan.nodesOf r .empty g.nodes with
    | error e =>
        obtain ⟨id, name, parameter, -, hfirst⟩ :=
          (nodesOf_eq_error_iff_firstLack hnames).mp hnodes
        exact ⟨id, name, parameter, hfirst⟩
    | ok d =>
        obtain ⟨planned, hplanned, -⟩ := (Plan.get?_of_nodesOf hnodes hids).1 n hn
        exact absurd hlack ((exists_toPlan_iff hnames hn).mp ⟨planned, hplanned⟩ p hp)

/-- The planned node that stands under the id of a node. -/
theorem exists_planned {d : Dict String PlanNode} (hids : g.nodeIds.Nodup)
    (hcomplete : g.Complete r) (hnodes : Plan.nodesOf r .empty g.nodes = .ok d) {n : Node}
    (hn : n ∈ g.nodes) :
    ∃ planned, d.get? n.id = some planned ∧
      planned.registryKey = r.registryKey n.type.name ∧ n.Completes r planned.parameters := by
  obtain ⟨planned, hplan, hget⟩ := (Plan.get?_of_nodesOf hnodes hids).1 n hn
  obtain ⟨other, hother, hkey, hvalues⟩ := Node.toPlan_eq_ok (hnames n hn) (hcomplete n hn)
  rw [hplan] at hother
  obtain rfl := Except.ok.inj hother
  exact ⟨planned, hget, hkey, hvalues⟩

theorem hasCategory_iff {d : Dict String PlanNode} (hids : g.nodeIds.Nodup)
    (hcomplete : g.Complete r) (hnodes : Plan.nodesOf r .empty g.nodes = .ok d)
    {expected : List String} :
    Plan.hasCategory d expected = true ↔ ∃ n ∈ g.nodes, ∃ category ∈ expected,
      Text.SameUpToCase category (r.registryKey n.type.name) := by
  simp only [Plan.hasCategory, List.any_eq_true, beq_iff_eq, Text.lowerAscii_eq_iff]
  constructor
  · rintro ⟨planned, hplanned, category, hcategory, hsame⟩
    obtain ⟨⟨id, _⟩, hentry, rfl⟩ := List.mem_map.mp hplanned
    have hget := Dict.get?_eq_some_iff.mpr hentry
    have hid : id ∈ g.nodeIds :=
      (Plan.keys_perm_of_nodesOf hnodes hids).mem_iff.mp (Dict.mem_keys_of_get? hget)
    obtain ⟨n, hn, rfl⟩ := List.mem_map.mp hid
    obtain ⟨other, hother, hkey, -⟩ := exists_planned hnames hids hcomplete hnodes hn
    rw [hget] at hother
    obtain rfl := Option.some.inj hother
    exact ⟨n, hn, category, hcategory, hkey ▸ hsame⟩
  · rintro ⟨n, hn, category, hcategory, hsame⟩
    obtain ⟨planned, hget, hkey, -⟩ := exists_planned hnames hids hcomplete hnodes hn
    refine ⟨planned, ?_, category, hcategory, hkey.symm ▸ hsame⟩
    exact List.mem_map.mpr ⟨(n.id, planned), Dict.get?_eq_some_iff.mp hget, rfl⟩

theorem checkCategory_eq {d : Dict String PlanNode} (hids : g.nodeIds.Nodup)
    (hcomplete : g.Complete r) (hnodes : Plan.nodesOf r .empty g.nodes = .ok d) (role : Role)
    (expected : List String) :
    Plan.checkCategory d role expected =
      if g.Misses r expected then .error (.missingCategory role expected) else .ok () := by
  have hmisses : g.Misses r expected ↔
      ¬ (expected.isEmpty || Plan.hasCategory d expected) = true := by
    rw [Bool.or_eq_true, not_or, hasCategory_iff hnames hids hcomplete hnodes,
      List.isEmpty_iff, Misses]
    push Not
    rfl
  rw [Plan.checkCategory]
  split
  · rename_i hpresent
    rw [if_neg fun h => hmisses.mp h hpresent]
  · rename_i habsent
    rw [if_pos (hmisses.mpr habsent)]

theorem plan_eq_emptyGraph_iff : g.plan r = .error .emptyGraph ↔ g.nodes = [] := by
  constructor
  · intro hplan
    by_contra hnodes
    rcases plan_eq_error hnodes hplan with hfault | ⟨_, _, ⟨⟩⟩
    obtain ⟨_, _, _, ⟨⟩, -⟩ := (nodesOf_eq_error_iff_firstLack hnames).mp hfault
  · intro hnil
    rw [plan, isEmpty_iff.mpr hnil]
    rfl

theorem plan_eq_missingParameter_iff (hnodes : g.nodes ≠ []) {id name parameter : String} :
    g.plan r = .error (.missingParameter id name parameter) ↔
      g.FirstLack r id name parameter := by
  constructor
  · intro hplan
    rcases plan_eq_error hnodes hplan with hfault | ⟨_, _, ⟨⟩⟩
    obtain ⟨_, _, _, ⟨⟩, hfirst⟩ := (nodesOf_eq_error_iff_firstLack hnames).mp hfault
    exact hfirst
  · intro hfirst
    rw [plan_of_nodes hnodes,
      (nodesOf_eq_error_iff_firstLack hnames).mpr ⟨id, name, parameter, rfl, hfirst⟩]

/-- Where no parameter is lacking, only the categories can be at fault, entry before terminal. -/
theorem plan_of_complete (hids : g.nodeIds.Nodup) (hnodes : g.nodes ≠ [])
    (hcomplete : g.Complete r) :
    ∃ plan : Plan, plan.Realizes g r ∧ g.plan r =
      if g.Misses r r.entryCategories then
        .error (.missingCategory .entry r.entryCategories)
      else if g.Misses r r.terminalCategories then
        .error (.missingCategory .terminal r.terminalCategories)
      else .ok plan := by
  obtain ⟨d, hd⟩ := exists_nodesOf_of_complete hnames hcomplete
  refine ⟨{ nodes := d, edges := g.edges.map fun e => e.toPlan r }, ⟨?_, ?_, ?_⟩, ?_⟩
  · exact Plan.keys_perm_of_nodesOf hd hids
  · exact fun n hn => exists_planned hnames hids hcomplete hd hn
  · exact List.forall₂_map_right_iff.mpr (List.forall₂_same.mpr fun e _ => e.becomes_toPlan r)
  · rw [plan_of_nodes hnodes, hd]
    simp only [checkCategory_eq hnames hids hcomplete hd]
    by_cases hentry : g.Misses r r.entryCategories
    · simp only [if_pos hentry]
    · by_cases hterminal : g.Misses r r.terminalCategories
      · simp only [if_neg hentry, if_pos hterminal]
      · simp only [if_neg hentry, if_neg hterminal]

end Faults

/-- The one category that is reported: that of the entry nodes, and that of the terminal nodes
only where an entry node is there. -/
def FirstMiss (g : Graph) (r : Rules) (role : Role) (expected : List String) : Prop :=
  (role = .entry ∧ expected = r.entryCategories ∧ g.Misses r r.entryCategories) ∨
    (role = .terminal ∧ expected = r.terminalCategories ∧
      ¬ g.Misses r r.entryCategories ∧ g.Misses r r.terminalCategories)

end Graph

end NodeCanvas
