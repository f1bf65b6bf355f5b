import NodeCanvas.Proofs.Equality
import NodeCanvas.Graph.Warnings
import NodeCanvas.Proofs.Plan.Nodes

namespace NodeCanvas

deriving instance ReflBEq for PlanNode, Endpoint, PlanEdge

/-- Both fail for one reason, or both succeed with equal results. -/
def SameResult {ε α : Type} [BEq α] : Except ε α → Except ε α → Prop
  | .ok a, .ok b => (a == b) = true
  | .error e, .error f => e = f
  | _, _ => False

theorem SameResult.refl {ε α : Type} [BEq α] [ReflBEq α] (x : Except ε α) : SameResult x x := by
  cases x with
  | error e => exact Eq.refl e
  | ok a => exact BEq.rfl (a := a)

theorem SameResult.bind {ε α β : Type} [BEq α] [BEq β] {x y : Except ε α} {f g : α → Except ε β}
    (h : SameResult x y) (hnext : ∀ a b, (a == b) = true → SameResult (f a) (g b)) :
    SameResult (x >>= f) (y >>= g) := by
  cases x <;> cases y
  case ok.ok a b => exact hnext a b h
  case error.error e f => exact h
  all_goals cases h

/-- One type, or two equal ones: a type that holds a number unequal to itself has no equal. -/
def NodeType.Matches (t u : NodeType) : Prop := t = u ∨ (t == u) = true

theorem NodeType.Matches.parts_eq {t u : NodeType} (h : t.Matches u) :
    t.key = u.key ∧ t.name = u.name ∧ (t.parameters == u.parameters) = true := by
  rcases h with rfl | h
  · exact ⟨rfl, rfl, BEq.rfl⟩
  · have hparts : (t.key == u.key && (t.name == u.name && (t.description == u.description &&
        (t.inputs == u.inputs && (t.outputs == u.outputs && (t.parameters == u.parameters &&
        (t.styling == u.styling && t.layout == u.layout))))))) = true := h
    simp only [Bool.and_eq_true, beq_iff_eq] at hparts
    obtain ⟨hkey, hname, -, -, -, hparameters, -⟩ := hparts
    exact ⟨hkey, hname, hparameters⟩

theorem Parameter.parts_eq_of_beq {p q : Parameter} (h : (p == q) = true) :
    p.name = q.name ∧ p.required = q.required ∧ (p.default? == q.default?) = true := by
  have hparts : (p.name == q.name && (p.dataType == q.dataType &&
      (p.description == q.description && (p.required == q.required &&
      (p.default? == q.default? && p.choices == q.choices))))) = true := h
  simp only [Bool.and_eq_true, beq_iff_eq] at hparts
  obtain ⟨hname, -, -, hrequired, hdefault, -⟩ := hparts
  exact ⟨hname, hrequired, hdefault⟩

theorem Json.isBlank_eq_of_beq {x y : Option Json} (h : (x == y) = true) :
    isBlank x = isBlank y := by
  cases x <;> cases y
  case none.none => rfl
  case some.some a b => exact isBlank_eq_of_same h
  all_goals cases h

theorem Rules.resolve?_beq (r : Rules) (registryKey : String) {p q : Parameter}
    (h : (p == q) = true) :
    (r.resolve? registryKey p == r.resolve? registryKey q) = true := by
  obtain ⟨hname, -, hdefault⟩ := Parameter.parts_eq_of_beq h
  rw [resolve?, resolve?, hname]
  cases r.fallback? registryKey q.name with
  | some value => exact BEq.rfl (a := value)
  | none =>
      revert hdefault
      cases p.default? <;> cases q.default? <;> intro hdefault
      case none.none => rfl
      case some.some a b =>
        have hkept : (a != .null) = (b != .null) :=
          congrArg (! ·) (Json.isNull_eq_of_same hdefault)
        simp only [Option.none_or, Option.filter_some, hkept]
        split
        · exact hdefault
        · rfl
      all_goals cases hdefault

namespace Node

structure Alike (m n : Node) : Prop where
  id : m.id = n.id
  type : m.type.Matches n.type
  position : m.position = n.position
  parameters : m.parameters = n.parameters
  annotations : m.annotations = n.annotations

theorem ids_eq_of_alike {nodes others : List Node} (h : List.Forall₂ Alike nodes others) :
    nodes.map (·.id) = others.map (·.id) := by
  have hids : List.Forall₂ (· = ·) (nodes.map (·.id)) (others.map (·.id)) := by
    rw [List.forall₂_map_left_iff, List.forall₂_map_right_iff]
    exact h.imp fun _ _ halike => halike.id
  rwa [List.forall₂_eq_eq_eq] at hids

theorem resolveParameters_same {m n : Node} (hid : m.id = n.id)
    (hname : m.type.name = n.type.name) (r : Rules) {values others : Parameters}
    (hvalues : (values == others) = true) {ps qs : List Parameter}
    (h : List.Forall₂ (fun p q => (p == q) = true) ps qs) :
    SameResult (m.resolveParameters r values ps) (n.resolveParameters r others qs) := by
  -- What was filled in so far is equal on both sides, but need not be the same.
  induction h generalizing values others with
  | nil => exact hvalues
  | @cons p q _ _ hhead _ ih =>
      obtain ⟨hsame, -, -⟩ := Parameter.parts_eq_of_beq hhead
      have hblank : Json.isBlank (values.get? q.name) = Json.isBlank (others.get? q.name) :=
        Json.isBlank_eq_of_beq (Dict.get?_beq hvalues q.name)
      have hresolved := r.resolve?_beq (r.registryKey n.type.name) hhead
      simp only [resolveParameters, hid, hname, hsame, hblank]
      split
      · revert hresolved
        cases r.resolve? (r.registryKey n.type.name) p <;>
          cases r.resolve? (r.registryKey n.type.name) q <;> intro hresolved
        case none.none => exact Eq.refl _
        case some.some a b => exact ih (Dict.insert_beq hvalues q.name hresolved)
        all_goals cases hresolved
      · exact ih hvalues

theorem Alike.toPlan_same {m n : Node} (h : m.Alike n) (r : Rules) :
    SameResult (m.toPlan r) (n.toPlan r) := by
  obtain ⟨-, hname, hparameters⟩ := h.type.parts_eq
  have hrequired : List.Forall₂ (fun p q => (p == q) = true)
      (m.type.parameters.filter (·.required)) (n.type.parameters.filter (·.required)) := by
    refine List.rel_filter (fun p q hpq => ?_) (beq_iff_forall₂.mp hparameters)
    show p.required = true ↔ q.required = true
    rw [(Parameter.parts_eq_of_beq hpq).2.1]
  rw [toPlan, toPlan, h.parameters, hname]
  refine (resolveParameters_same h.id hname r BEq.rfl hrequired).bind
    fun values others hvalues => ?_
  show (r.registryKey n.type.name == r.registryKey n.type.name && values == others) = true
  rw [BEq.rfl, hvalues, Bool.and_self]

end Node

namespace Plan

theorem nodesOf_same {nodes others : List Node} (h : List.Forall₂ Node.Alike nodes others)
    (r : Rules) {seen found : Dict String PlanNode} (hseen : (seen == found) = true) :
    SameResult (nodesOf r seen nodes) (nodesOf r found others) := by
  induction h generalizing seen found with
  | nil => exact hseen
  | cons hhead _ ih =>
      refine (hhead.toPlan_same r).bind fun planned other hplanned => ?_
      rw [hhead.id]
      exact ih (Dict.insert_beq hseen _ hplanned)

theorem hasCategory_eq_of_beq {nodes others : Dict String PlanNode}
    (h : (nodes == others) = true) (expected : List String) :
    hasCategory nodes expected = hasCategory others expected := by
  have hvalues := Dict.values_beq h
  unfold hasCategory
  generalize nodes.values = left, others.values = right at hvalues
  induction hvalues with
  | nil => rfl
  | @cons planned other _ _ hhead _ ih =>
      have hparts : (planned.registryKey == other.registryKey &&
          planned.parameters == other.parameters) = true := hhead
      rw [Bool.and_eq_true, beq_iff_eq] at hparts
      rw [List.any_cons, List.any_cons, hparts.1, ih]

theorem checkCategory_eq_of_beq {nodes others : Dict String PlanNode}
    (h : (nodes == others) = true) (role : Role) (expected : List String) :
    checkCategory nodes role expected = checkCategory others role expected := by
  rw [checkCategory, checkCategory, hasCategory_eq_of_beq h]

end Plan

namespace Graph

structure Alike (g other : Graph) : Prop where
  nodes : List.Forall₂ Node.Alike g.nodes other.nodes
  edges : g.edges = other.edges
  panel : g.panel = other.panel

variable {g other : Graph}

theorem Alike.plan_same (h : g.Alike other) (r : Rules) :
    SameResult (g.plan r) (other.plan r) := by
  unfold plan
  rw [isEmpty_eq_of_length h.nodes.length_eq, h.edges]
  split
  · exact Eq.refl _
  refine (Plan.nodesOf_same h.nodes r BEq.rfl).bind fun planned others hplanned => ?_
  rw [Plan.checkCategory_eq_of_beq hplanned, Plan.checkCategory_eq_of_beq hplanned]
  refine SameResult.bind (SameResult.refl _) fun _ _ _ => ?_
  refine SameResult.bind (SameResult.refl _) fun _ _ _ => ?_
  show (planned == others && (other.edges.map fun e => e.toPlan r) ==
    other.edges.map fun e => e.toPlan r) = true
  rw [hplanned, BEq.rfl, Bool.and_self]

theorem Alike.nodeIds_eq (h : g.Alike other) : g.nodeIds = other.nodeIds :=
  Node.ids_eq_of_alike h.nodes

theorem visit_eq (hedges : g.edges = other.edges) (s : Sweep) :
    Sweep.visit g s = Sweep.visit other s := by
  unfold Sweep.visit outgoing
  rw [hedges]

theorem run_eq (hedges : g.edges = other.edges) (rounds : Nat) (s : Sweep) :
    Sweep.run g rounds s = Sweep.run other rounds s := by
  induction rounds generalizing s with
  | zero => rfl
  | succ rounds ih => rw [Sweep.run, Sweep.run, visit_eq hedges, ih]

theorem warnings_eq_of_ids (hids : g.nodeIds = other.nodeIds) (hedges : g.edges = other.edges) :
    g.warnings = other.warnings := by
  have hlength : g.nodes.length = other.nodes.length := by
    have hids := congrArg List.length hids
    rwa [nodeIds, nodeIds, List.length_map, List.length_map] at hids
  have hroots : g.roots = other.roots := by
    unfold roots incoming
    rw [hids, hedges]
  have hstart : Sweep.start g other.roots = Sweep.start other other.roots := by
    unfold Sweep.start incoming
    rw [hids, hedges]
  have hcycle : g.hasCycle other.roots = other.hasCycle other.roots := by
    rw [hasCycle, hasCycle, hlength, hstart, run_eq hedges]
  rw [warnings, warnings, hroots, warningsFrom, warningsFrom, hcycle, isolated, isolated, hlength,
    hids, hedges]

theorem Alike.warnings_eq (h : g.Alike other) : g.warnings = other.warnings :=
  warnings_eq_of_ids h.nodeIds_eq h.edges

end Graph

end NodeCanvas
