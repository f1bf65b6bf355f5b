import NodeCanvas.Proofs.Plan.Nodes

namespace NodeCanvas

namespace Plan

/-- What a plan reads of a parameter that a type declares. -/
structure Demand where
  name : String
  required : Bool
  default? : Option Json
deriving DecidableEq

/-- What a plan reads of a node. -/
structure Task where
  id : String
  typeName : String
  demands : List Demand
  values : Parameters
deriving DecidableEq

end Plan

def Parameter.demand (p : Parameter) : Plan.Demand := ⟨p.name, p.required, p.default?⟩

namespace Node

def task (n : Node) : Plan.Task where
  id := n.id
  typeName := n.type.name
  demands := n.type.parameters.map (·.demand)
  values := n.parameters

theorem resolveParameters_congr {m n : Node} (hid : m.id = n.id)
    (hname : m.type.name = n.type.name) (r : Rules) (values : Parameters)
    {ps qs : List Parameter} (h : ps.map (·.demand) = qs.map (·.demand)) :
    m.resolveParameters r values ps = n.resolveParameters r values qs := by
  induction ps generalizing qs values with
  | nil =>
      obtain rfl : qs = [] := List.map_eq_nil_iff.mp h.symm
      rfl
  | cons p rest ih =>
      obtain ⟨q, others, rfl, hhead, htail⟩ := List.map_eq_cons_iff.mp h.symm
      obtain ⟨hsame, -, hdefault⟩ := Plan.Demand.mk.inj hhead
      have hresolve : r.resolve? (r.registryKey n.type.name) q =
          r.resolve? (r.registryKey n.type.name) p := by
        rw [Rules.resolve?, Rules.resolve?, hsame, hdefault]
      simp only [resolveParameters, hid, hname, hsame, hresolve, ih _ htail.symm]

theorem toPlan_congr {m n : Node} (h : m.task = n.task) (r : Rules) :
    m.toPlan r = n.toPlan r := by
  obtain ⟨hid, hname, hdemands, hvalues⟩ := Plan.Task.mk.inj h
  have hrequired : (m.type.parameters.filter (·.required)).map (·.demand) =
      (n.type.parameters.filter (·.required)).map (·.demand) := by
    have hfiltered := congrArg (List.filter (·.required)) hdemands
    rwa [List.filter_map, List.filter_map] at hfiltered
  rw [toPlan, toPlan, hname, hvalues, resolveParameters_congr hid hname r _ hrequired]

end Node

def Edge.connection (e : Edge) : Connection where
  source := e.source
  target := e.target
  sourceHandle := e.sourceHandle
  targetHandle := e.targetHandle

theorem Edge.toPlan_congr {e f : Edge} (h : e.connection = f.connection) (r : Rules) :
    e.toPlan r = f.toPlan r := by
  obtain ⟨hsource, htarget, hsourceHandle, htargetHandle⟩ := Connection.mk.inj h
  rw [toPlan, toPlan, hsource, htarget, hsourceHandle, htargetHandle]

/-- Reasons of one kind. Of two missing categories it is the same one. -/
def Rejection.SameKind : Rejection → Rejection → Prop
  | .emptyGraph, .emptyGraph => True
  | .missingParameter .., .missingParameter .. => True
  | .missingCategory role expected, .missingCategory otherRole others =>
      role = otherRole ∧ expected = others
  | _, _ => False

theorem Rejection.SameKind.refl (reason : Rejection) : reason.SameKind reason := by
  cases reason with
  | emptyGraph => trivial
  | missingParameter id name parameter => trivial
  | missingCategory role expected => exact ⟨rfl, rfl⟩

namespace Plan

/-- The same plan, or rejections of one kind. -/
def SameVerdict : Except Rejection Plan → Except Rejection Plan → Prop
  | .ok plan, .ok other => plan = other
  | .error reason, .error other => reason.SameKind other
  | _, _ => False

theorem SameVerdict.of_eq {verdict other : Except Rejection Plan} (h : verdict = other) :
    SameVerdict verdict other := by
  subst h
  cases verdict with
  | ok plan => rfl
  | error reason => exact .refl reason

end Plan

namespace Graph

/-- The same nodes and edges, as far as a plan is concerned. The nodes may come in another order. -/
structure SameTasks (g other : Graph) : Prop where
  nodes : (g.nodes.map (·.task)).Perm (other.nodes.map (·.task))
  edges : g.edges.map (·.connection) = other.edges.map (·.connection)

section SameTasks

variable {g other : Graph}

theorem SameTasks.symm (h : g.SameTasks other) : other.SameTasks g := ⟨h.nodes.symm, h.edges.symm⟩

theorem SameTasks.exists_of_mem (h : g.SameTasks other) {n : Node} (hn : n ∈ g.nodes) :
    ∃ m ∈ other.nodes, m.task = n.task := by
  have htask : n.task ∈ other.nodes.map (·.task) :=
    h.nodes.mem_iff.mp (List.mem_map.mpr ⟨n, hn, rfl⟩)
  exact List.mem_map.mp htask

theorem SameTasks.nodes_eq_nil (h : g.SameTasks other) (hnil : g.nodes = []) :
    other.nodes = [] := by
  have hnodes := h.nodes
  rw [hnil, List.map_nil] at hnodes
  exact List.map_eq_nil_iff.mp hnodes.nil_eq.symm

theorem SameTasks.nodeIds_perm (h : g.SameTasks other) : g.nodeIds.Perm other.nodeIds := by
  have hids := h.nodes.map Plan.Task.id
  rwa [List.map_map, List.map_map] at hids

theorem SameTasks.planEdges_eq (h : g.SameTasks other) (r : Rules) :
    g.edges.map (fun e => e.toPlan r) = other.edges.map fun e => e.toPlan r := by
  have hedges := h.edges
  generalize g.edges = left, other.edges = right at hedges
  induction left generalizing right with
  | nil => rw [List.map_eq_nil_iff.mp hedges.symm]
  | cons e rest ih =>
      obtain ⟨f, others, rfl, hhead, htail⟩ := List.map_eq_cons_iff.mp hedges.symm
      rw [List.map_cons, List.map_cons, Edge.toPlan_congr hhead.symm, ih _ htail.symm]

/-- With distinct ids, nodes that can all be planned have one dictionary of planned nodes. -/
theorem SameTasks.nodesOf_eq (h : g.SameTasks other) (hids : g.nodeIds.Nodup) {r : Rules}
    {planned : Dict String PlanNode} (hplanned : Plan.nodesOf r .empty g.nodes = .ok planned) :
    Plan.nodesOf r .empty other.nodes = .ok planned := by
  have hotherIds : other.nodeIds.Nodup := h.nodeIds_perm.nodup_iff.mp hids
  obtain ⟨hmem, hrest⟩ := Plan.get?_of_nodesOf hplanned hids
  have hall : ∀ m ∈ other.nodes, ∃ p, m.toPlan r = .ok p := by
    intro m hm
    obtain ⟨n, hn, htask⟩ := h.symm.exists_of_mem hm
    obtain ⟨p, hp, -⟩ := hmem n hn
    exact ⟨p, (Node.toPlan_congr htask r).symm.trans hp⟩
  obtain ⟨found, hfound⟩ := Plan.exists_nodesOf_eq_ok .empty hall
  obtain ⟨hotherMem, hotherRest⟩ := Plan.get?_of_nodesOf hfound hotherIds
  rw [hfound]
  refine congrArg Except.ok (Dict.ext_get? fun id => ?_)
  -- An id decides which node is planned under it, so the order of the nodes does not matter.
  by_cases hid : id ∈ g.nodeIds
  · obtain ⟨n, hn, rfl⟩ := List.mem_map.mp hid
    obtain ⟨m, hm, htask⟩ := h.exists_of_mem hn
    obtain ⟨p, hp, hget⟩ := hmem n hn
    obtain ⟨q, hq, hotherGet⟩ := hotherMem m hm
    have hsame : m.id = n.id := congrArg Plan.Task.id htask
    rw [Node.toPlan_congr htask r, hp] at hq
    rw [hget, ← hsame, hotherGet, Except.ok.inj hq]
  · have hotherId : id ∉ other.nodeIds := fun hmem => hid (h.nodeIds_perm.mem_iff.mpr hmem)
    rw [hrest id hid, hotherRest id hotherId]

theorem nodesOf_eq_error {r : Rules} {nodes : List Node} {e : Rejection}
    (h : Plan.nodesOf r .empty nodes = .error e) :
    ∃ id name parameter, e = .missingParameter id name parameter := by
  obtain ⟨-, n, -, -, -, hn⟩ := Plan.nodesOf_eq_error_iff.mp h
  obtain ⟨parameter, rfl⟩ := Node.toPlan_eq_error hn
  exact ⟨_, _, parameter, rfl⟩

end SameTasks

/-- Graphs that ask for the same tasks in any order are planned alike: both get the same plan, or
both are rejected, and for reasons of one kind. -/
theorem Reachable.plan_of_sameTasks {g other : Graph} (hg : g.Reachable) (ho : other.Reachable)
    (h : g.SameTasks other) (r : Rules) : Plan.SameVerdict (g.plan r) (other.plan r) := by
  by_cases hempty : g.nodes = []
  · have hother : other.nodes = [] := h.nodes_eq_nil hempty
    rw [plan, plan, isEmpty_iff.mpr hempty, isEmpty_iff.mpr hother]
    trivial
  · have hother : other.nodes ≠ [] := fun hnil => hempty (h.symm.nodes_eq_nil hnil)
    have hgplan := plan_of_nodes hempty r
    have hoplan := plan_of_nodes hother r
    cases hplanned : Plan.nodesOf r .empty g.nodes with
    | ok planned =>
        -- What is left of planning depends on the planned nodes and edges alone.
        rw [hplanned, h.planEdges_eq r] at hgplan
        rw [h.nodesOf_eq hg.wellFormed.distinct hplanned] at hoplan
        exact .of_eq (hgplan.trans hoplan.symm)
    | error reason =>
        cases hothers : Plan.nodesOf r .empty other.nodes with
        | ok planned =>
            have hok := h.symm.nodesOf_eq ho.wellFormed.distinct hothers
            rw [hplanned] at hok
            cases hok
        | error otherReason =>
            obtain ⟨_, _, _, rfl⟩ := nodesOf_eq_error hplanned
            obtain ⟨_, _, _, rfl⟩ := nodesOf_eq_error hothers
            rw [hplanned] at hgplan
            rw [hothers] at hoplan
            rw [hgplan, hoplan]
            trivial

def interview : Graph := .ofParts
  [{ id := "a", type := question, position := .origin, parameters := .empty },
   { id := "b", type := question, position := .origin
     parameters := .ofList [("limit", .natural 2)] },
   { id := "r", type := reply, position := .origin, parameters := .empty }]
  [{ id := "e", source := "a", target := "r", sourceHandle := some "output-result" },
   { id := "f", source := "b", target := "r" }]

/-- The interview with its nodes turned round, after a run and with a panel open. -/
def interviewRearranged : Graph := (Graph.ofParts
  [{ id := "r", type := { reply with key := "answer", description := "what was said" }
     position := ⟨.ofInt 3, .zero⟩, parameters := .empty
     annotations := { response := some "yes" } },
   { id := "b", type := { question with outputs := [{ name := "text", dataType := "string" }] }
     position := .origin, parameters := .ofList [("limit", .natural 2)] },
   { id := "a", type := question, position := .origin, parameters := .empty }]
  [{ id := "g", source := "a", target := "r", sourceHandle := some "output-result" },
   { id := "h", source := "b", target := "r" }]).perform (.openPanel "r")

theorem interview_plan_of_sameTasks :
    interview.Reachable ∧ interviewRearranged.Reachable ∧
    interview.SameTasks interviewRearranged ∧
    (∃ plan, interview.plan .standard = .ok plan ∧
      interviewRearranged.plan .standard = .ok plan) ∧
    ∃ e f, interview.plan { Rules.standard with fallbacks := .empty } = .error e ∧
      interviewRearranged.plan { Rules.standard with fallbacks := .empty } = .error f ∧
      e.SameKind f ∧ e ≠ f := by
  have hreachable : interview.Reachable := .ofParts _ _
  have hrearranged : interviewRearranged.Reachable := .step _ (.ofParts _ _) trivial
  have hsame : interview.SameTasks interviewRearranged :=
    ⟨by decide +kernel, by decide +kernel⟩
  have halike := hreachable.plan_of_sameTasks hrearranged hsame
  refine ⟨hreachable, hrearranged, hsame, ?_, ?_⟩
  · have hok : (interview.plan .standard).isOk = true := by decide +kernel
    have hverdict := halike .standard
    cases h : interview.plan .standard with
    | error e =>
        rw [h] at hok
        cases hok
    | ok plan =>
        cases hother : interviewRearranged.plan .standard with
        | error f =>
            rw [h, hother] at hverdict
            cases hverdict
        | ok other =>
            rw [h, hother] at hverdict
            exact ⟨plan, rfl, congrArg Except.ok (Eq.symm hverdict)⟩
  · have hfirst : interview.plan { Rules.standard with fallbacks := .empty } =
        .error (.missingParameter "a" "QueryNode" "query") := by decide +kernel
    have hsecond : interviewRearranged.plan { Rules.standard with fallbacks := .empty } =
        .error (.missingParameter "b" "QueryNode" "query") := by decide +kernel
    have hverdict := halike { Rules.standard with fallbacks := .empty }
    rw [hfirst, hsecond] at hverdict
    exact ⟨_, _, hfirst, hsecond, hverdict, by decide⟩

end Graph

end NodeCanvas
