import NodeCanvas.Proofs.Plan.Nodes

/-!
Which required parameters of a plan are blank. A value that is left blank is filled in, but a
default is taken as it is declared. So a required parameter of a plan is blank exactly where
nothing but empty texts and empty lists are declared for it, and it is never absent or null.
-/
namespace NodeCanvas

namespace Node

section Resolve

variable {n : Node} {r : Rules} {values after : Parameters} {parameters : List Parameter}

/-- A parameter is passed over where it has a value, and else resolved and filled in. -/
theorem resolveParameters_cons_eq_ok {p : Parameter} {rest : List Parameter}
    (h : n.resolveParameters r values (p :: rest) = .ok after) :
    (¬ Json.Blank (values.get? p.name) ∧ n.resolveParameters r values rest = .ok after) ∨
      ∃ value, Json.Blank (values.get? p.name) ∧
        r.resolve? (r.registryKey n.type.name) p = some value ∧
        n.resolveParameters r (values.insert p.name value) rest = .ok after := by
  rw [resolveParameters] at h
  split at h
  · rename_i hblank
    split at h
    · rename_i value hvalue
      exact .inr ⟨value, Json.isBlank_iff.mp hblank, hvalue, h⟩
    · cases h
  · rename_i hblank
    exact .inl ⟨fun hvalue => hblank (Json.isBlank_iff.mpr hvalue), h⟩

/-- A name stays blank if every parameter of it resolves to a blank value. Parameters may share
their names: a blank default leaves the name to the next one. -/
theorem blank_resolveParameters_iff (h : n.resolveParameters r values parameters = .ok after)
    (name : String) :
    Json.Blank (after.get? name) ↔ Json.Blank (values.get? name) ∧
      ∀ p ∈ parameters, p.name = name → ∃ value,
        r.resolve? (r.registryKey n.type.name) p = some value ∧ Json.Blank (some value) := by
  induction parameters generalizing values with
  | nil =>
      obtain rfl : values = after := Except.ok.inj h
      simp
  | cons p rest ih =>
      rcases resolveParameters_cons_eq_ok h with ⟨hfull, hrest⟩ | ⟨value, hblank, hvalue, hrest⟩
      · rw [ih hrest, List.forall_mem_cons]
        constructor
        · rintro ⟨hname, hall⟩
          refine ⟨hname, ?_, hall⟩
          rintro rfl
          exact absurd hname hfull
        · rintro ⟨hname, -, hall⟩
          exact ⟨hname, hall⟩
      · rw [ih hrest, List.forall_mem_cons]
        by_cases hname : p.name = name
        · subst hname
          rw [Dict.get?_insert_self]
          constructor
          · rintro ⟨hdefault, hall⟩
            exact ⟨hblank, fun _ => ⟨value, hvalue, hdefault⟩, hall⟩
          · rintro ⟨-, hhere, hall⟩
            obtain ⟨other, hother, hdefault⟩ := hhere rfl
            rw [hvalue] at hother
            obtain rfl := Option.some.inj hother
            exact ⟨hdefault, hall⟩
        · rw [Dict.get?_insert_of_ne _ _ (Ne.symm hname)]
          constructor
          · rintro ⟨hother, hall⟩
            exact ⟨hother, fun heq => absurd heq hname, hall⟩
          · rintro ⟨hother, -, hall⟩
            exact ⟨hother, hall⟩

/-- What stands under a name was there before, or is what a parameter of that name resolves to. -/
theorem get?_resolveParameters (h : n.resolveParameters r values parameters = .ok after)
    (name : String) :
    (after.get? name = values.get? name ∧
        (Json.Blank (values.get? name) → ∀ p ∈ parameters, p.name ≠ name)) ∨
      ∃ p ∈ parameters, ∃ value, p.name = name ∧
        r.resolve? (r.registryKey n.type.name) p = some value ∧ after.get? name = some value := by
  induction parameters generalizing values with
  | nil =>
      obtain rfl : values = after := Except.ok.inj h
      exact .inl ⟨rfl, by simp⟩
  | cons p rest ih =>
      rcases resolveParameters_cons_eq_ok h with ⟨hfull, hrest⟩ | ⟨value, -, hvalue, hrest⟩
      · rcases ih hrest with ⟨hsame, hnone⟩ | ⟨q, hq, hfilled⟩
        · refine .inl ⟨hsame, fun hblank => List.forall_mem_cons.mpr ⟨?_, hnone hblank⟩⟩
          rintro rfl
          exact hfull hblank
        · exact .inr ⟨q, List.mem_cons_of_mem _ hq, hfilled⟩
      · rcases ih hrest with ⟨hsame, hnone⟩ | ⟨q, hq, hfilled⟩
        · by_cases hname : p.name = name
          · subst hname
            rw [Dict.get?_insert_self] at hsame
            exact .inr ⟨p, List.mem_cons_self .., value, rfl, hvalue, hsame⟩
          · rw [Dict.get?_insert_of_ne _ _ (Ne.symm hname)] at hsame hnone
            exact .inl ⟨hsame, fun hblank => List.forall_mem_cons.mpr ⟨hname, hnone hblank⟩⟩
        · exact .inr ⟨q, List.mem_cons_of_mem _ hq, hfilled⟩

end Resolve

/-- Nothing but empty texts and empty lists is at hand for a parameter: neither a value nor a
fallback, and no other default each time it is declared as required. -/
def OnlyEmpty (n : Node) (r : Rules) (p : Parameter) : Prop :=
  Json.Blank (n.parameters.get? p.name) ∧
    r.fallback? (r.registryKey n.type.name) p.name = none ∧
    ∀ q ∈ n.type.parameters, q.required = true → q.name = p.name →
      q.default? = some (.str "") ∨ q.default? = some (.arr [])

instance (n : Node) (r : Rules) (p : Parameter) : Decidable (n.OnlyEmpty r p) :=
  inferInstanceAs (Decidable (_ ∧ _ ∧ _))

section Planned

variable {n : Node} {r : Rules} {planned : PlanNode} (hplan : n.toPlan r = .ok planned)
  (hfallbacks : r.fallbacks.All fun value => ¬ Json.Blank (some value))

theorem resolve?_of_default {registryKey : String} {p : Parameter} {value : Json}
    (hfallback : r.fallback? registryKey p.name = none) (hdefault : p.default? = some value)
    (hnull : value ≠ .null) : r.resolve? registryKey p = some value := by
  rw [Rules.resolve?, hfallback, Option.none_or, hdefault, Option.filter_some,
    if_pos (Json.bne_null_iff.mpr hnull)]

include hfallbacks in
/-- Only a default can resolve to a blank value, and only to an empty text or list. -/
theorem blank_resolve? {registryKey : String} {p : Parameter} {value : Json}
    (h : r.resolve? registryKey p = some value) (hblank : Json.Blank (some value)) :
    r.fallback? registryKey p.name = none ∧ p.default? = some value ∧
      (value = .str "" ∨ value = .arr []) := by
  rw [Rules.resolve?, Option.or_eq_some_iff] at h
  rcases h with hfallback | ⟨hnone, hdefault⟩
  · exact absurd hblank (hfallbacks.of_get? hfallback)
  · obtain ⟨hdefault, hnull⟩ := Option.filter_eq_some_iff.mp hdefault
    refine ⟨hnone, hdefault, ?_⟩
    rcases hblank with hnone | hvalue | htext | hlist
    · cases hnone
    · exact absurd (Option.some.inj hvalue) (Json.bne_null_iff.mp hnull)
    · exact .inl (Option.some.inj htext)
    · exact .inr (Option.some.inj hlist)

include hplan

theorem resolveParameters_of_toPlan :
    n.resolveParameters r n.parameters (n.type.parameters.filter (·.required)) =
      .ok planned.parameters := by
  cases hresolved : n.resolveParameters r n.parameters
      (n.type.parameters.filter (·.required)) with
  | error e =>
      rw [toPlan, hresolved] at hplan
      cases hplan
  | ok values =>
      rw [toPlan, hresolved] at hplan
      obtain rfl := Except.ok.inj hplan
      rfl

include hfallbacks

variable {p : Parameter} (hp : p ∈ n.type.parameters) (hrequired : p.required = true)

include hp hrequired

theorem blank_toPlan_iff :
    Json.Blank (planned.parameters.get? p.name) ↔ n.OnlyEmpty r p := by
  rw [blank_resolveParameters_iff (resolveParameters_of_toPlan hplan)]
  simp only [List.mem_filter, and_imp]
  constructor
  · rintro ⟨hblank, hall⟩
    obtain ⟨value, hvalue, hempty⟩ := hall p hp hrequired rfl
    refine ⟨hblank, (blank_resolve? hfallbacks hvalue hempty).1, ?_⟩
    intro q hq hrequiredToo hname
    obtain ⟨other, hother, hemptyToo⟩ := hall q hq hrequiredToo hname
    obtain ⟨-, hdefault, rfl | rfl⟩ := blank_resolve? hfallbacks hother hemptyToo
    · exact .inl hdefault
    · exact .inr hdefault
  · rintro ⟨hblank, hfallback, hdefaults⟩
    refine ⟨hblank, ?_⟩
    intro q hq hrequiredToo hname
    rw [← hname] at hfallback
    rcases hdefaults q hq hrequiredToo hname with hdefault | hdefault
    · exact ⟨.str "", resolve?_of_default hfallback hdefault nofun, .inr (.inr (.inl rfl))⟩
    · exact ⟨.arr [], resolve?_of_default hfallback hdefault nofun, .inr (.inr (.inr rfl))⟩

/-- A blank value of a planned node is a default, as it is declared. -/
theorem eq_default_of_blank (hblank : Json.Blank (planned.parameters.get? p.name)) :
    ∃ q ∈ n.type.parameters, q.required = true ∧ q.name = p.name ∧
      planned.parameters.get? p.name = q.default? ∧
      (q.default? = some (.str "") ∨ q.default? = some (.arr [])) := by
  have hresolved := resolveParameters_of_toPlan hplan
  have hrequiredMem : p ∈ n.type.parameters.filter (·.required) :=
    List.mem_filter.mpr ⟨hp, hrequired⟩
  rcases get?_resolveParameters hresolved p.name with
    ⟨-, hnone⟩ | ⟨q, hq, value, hname, hvalue, hget⟩
  · have hbefore := ((blank_resolveParameters_iff hresolved p.name).mp hblank).1
    exact absurd rfl (hnone hbefore p hrequiredMem)
  · obtain ⟨hqmem, hqrequired⟩ := List.mem_filter.mp hq
    rw [hget] at hblank ⊢
    obtain ⟨-, hdefault, hempty⟩ := blank_resolve? hfallbacks hvalue hblank
    refine ⟨q, hqmem, hqrequired, hname, hdefault.symm, ?_⟩
    rw [hdefault]
    rcases hempty with rfl | rfl
    · exact .inl rfl
    · exact .inr rfl

end Planned

end Node

theorem Rules.standard_fallbacks :
    Rules.standard.fallbacks.All fun value => ¬ Json.Blank (some value) := by
  show ∀ entry ∈ Rules.standard.fallbacks.entries, ¬ Json.Blank (some entry.2)
  decide +kernel

namespace Graph

/-- Whenever the graph has a plan, all required parameters of its nodes have values there. -/
def PlansFilled (g : Graph) (r : Rules) : Prop :=
  ∀ plan, g.plan r = .ok plan → ∀ n ∈ g.nodes, ∃ planned, plan.nodes.get? n.id = some planned ∧
    ∀ p ∈ n.type.parameters, p.required = true → ¬ Json.Blank (planned.parameters.get? p.name)

/-- A required parameter of a plan is blank exactly where nothing but empty texts and empty
lists is at hand for it. It then has the default as it is declared, so that it is never absent
and never null. -/
theorem Reachable.blank_plan_iff {g : Graph} (h : g.Reachable) {plan : Plan}
    (hplan : g.plan .standard = .ok plan) :
    ∀ n ∈ g.nodes, ∃ planned, plan.nodes.get? n.id = some planned ∧
      ∀ p ∈ n.type.parameters, p.required = true →
        (Json.Blank (planned.parameters.get? p.name) ↔ n.OnlyEmpty .standard p) ∧
        (n.OnlyEmpty .standard p → ∃ q ∈ n.type.parameters, q.required = true ∧
          q.name = p.name ∧ planned.parameters.get? p.name = q.default? ∧
          (q.default? = some (.str "") ∨ q.default? = some (.arr []))) := by
  intro n hn
  have hids := h.wellFormed.distinct
  obtain ⟨planned, hplanned, hget⟩ := (Plan.get?_of_nodesOf (plan_eq_ok hplan).1 hids).1 n hn
  refine ⟨planned, hget, fun p hp hrequired => ?_⟩
  have hblank := Node.blank_toPlan_iff hplanned Rules.standard_fallbacks hp hrequired
  refine ⟨hblank, fun hempty => ?_⟩
  exact Node.eq_default_of_blank hplanned Rules.standard_fallbacks hp hrequired
    (hblank.mpr hempty)

def emptyQuestion : NodeType where
  key := "query_node"
  name := "QueryNode"
  parameters := [
    { name := "query", dataType := "string", required := true },
    { name := "topic", dataType := "string", required := true, default? := some (.str "") },
    { name := "tags", dataType := "list", required := true, default? := some (.arr []) }]

def emptyNode : Node :=
  { id := "q", type := emptyQuestion, position := .origin, parameters := .empty }

def emptyExchange : Graph := .ofParts
  [emptyNode, { id := "r", type := reply, position := .origin, parameters := .empty }] []

/-- The question has a fallback, the topic and the tags stay empty. -/
theorem emptyExchange_blank_plan :
    emptyExchange.Reachable ∧ ∃ plan planned, emptyExchange.plan .standard = .ok plan ∧
      plan.nodes.get? "q" = some planned ∧ ¬ Json.Blank (planned.parameters.get? "query") ∧
      Json.Blank (planned.parameters.get? "topic") ∧
      Json.Blank (planned.parameters.get? "tags") := by
  have hreachable : emptyExchange.Reachable := .ofParts _ _
  have hok : (emptyExchange.plan .standard).isOk = true := by decide +kernel
  cases hplan : emptyExchange.plan .standard with
  | error e =>
      rw [hplan] at hok
      cases hok
  | ok plan =>
      obtain ⟨planned, hget, hvalues⟩ :=
        hreachable.blank_plan_iff hplan emptyNode (List.mem_cons_self ..)
      have hquery := hvalues { name := "query", dataType := "string", required := true }
        (List.mem_cons_self ..) rfl
      have htopic := hvalues
        { name := "topic", dataType := "string", required := true, default? := some (.str "") }
        (List.mem_cons_of_mem _ (List.mem_cons_self ..)) rfl
      have htags := hvalues
        { name := "tags", dataType := "list", required := true, default? := some (.arr []) }
        (List.mem_cons_of_mem _ (List.mem_cons_of_mem _ (List.mem_cons_self ..))) rfl
      exact ⟨hreachable, plan, planned, rfl, hget, mt hquery.1.mp (by decide +kernel),
        htopic.1.mpr (by decide +kernel), htags.1.mpr (by decide +kernel)⟩

/-- A plan whose topic is the empty text. -/
theorem emptyExchange_not_plansFilled :
    emptyExchange.Reachable ∧ (emptyExchange.plan .standard).isOk = true ∧
    ¬ emptyExchange.PlansFilled .standard := by
  have hok : (emptyExchange.plan .standard).isOk = true := by decide +kernel
  have hvalue : ((emptyExchange.plan .standard).toOption.bind fun plan =>
      (plan.nodes.get? "q").bind fun planned => planned.parameters.get? "topic") =
        some (.str "") := by
    decide +kernel
  refine ⟨.ofParts _ _, hok, fun hfilled => ?_⟩
  cases hplan : emptyExchange.plan .standard with
  | error e =>
      rw [hplan] at hok
      cases hok
  | ok plan =>
      obtain ⟨planned, hget, hvalues⟩ := hfilled plan hplan emptyNode (List.mem_cons_self ..)
      have htopic := hvalues
        { name := "topic", dataType := "string", required := true, default? := some (.str "") }
        (List.mem_cons_of_mem _ (List.mem_cons_self ..)) rfl
      have hget : plan.nodes.get? "q" = some planned := hget
      rw [hplan] at hvalue
      simp only [Except.toOption, Option.bind_some, hget] at hvalue
      rw [hvalue] at htopic
      exact htopic (by decide)

end Graph

end NodeCanvas
