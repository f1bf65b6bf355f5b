import NodeCanvas.Form.Check
import NodeCanvas.Proofs.Plan.Nodes
import NodeCanvas.Proofs.Staging

/-!
Plain forms beside plans. Both ask whether a required parameter has a value, the form by its
component and the plan by what the node declares. What the form lets pass is never open in a plan:
a blank value is a violation, also where there is a default, and a default that stands in for no
value at all is one that the plan takes.
-/
namespace NodeCanvas

namespace NodeType

/-- No groups are declared, so that the form is the plain one. -/
def IsPlain (t : NodeType) : Prop := ∀ layout, t.layout = some layout → layout.groups = []

theorem groups_of_isPlain {t : NodeType} (h : t.IsPlain) : t.groups = t.plainGroups := by
  unfold groups
  cases hlayout : t.layout with
  | none => rfl
  | some layout => simp [h layout hlayout]

theorem kind_plainComponent (p : Parameter) : (plainComponent p).kind.isDisplayOnly = false := by
  have htag : ∀ tag ∈ ["select", "checkbox", "number_input", "text_input"],
      (Kind.ofTag tag).isDisplayOnly = false := by
    decide
  refine htag (plainTag p) ?_
  unfold plainTag
  split_ifs <;> simp

theorem parameter?_of_mem {t : NodeType} (h : (t.parameters.map (·.name)).Nodup) {p : Parameter}
    (hp : p ∈ t.parameters) : t.parameter? p.name = some p := by
  cases hfound : t.parameter? p.name with
  | none => simpa using List.find?_eq_none.mp hfound p hp
  | some q =>
      have hname : q.name = p.name := by simpa using List.find?_some hfound
      rw [List.inj_on_of_nodup_map h (List.mem_of_find?_eq_some hfound) hp hname]

end NodeType

namespace Component

theorem not_blank_of_faults_eq_nil {c : Component} {value : Option Json}
    (h : c.faults value = []) (hrequired : c.required = true) : ¬ Json.Blank value := by
  intro hblank
  unfold faults at h
  rw [if_pos (Json.isBlank_iff.mpr hblank), if_pos hrequired] at h
  cases h

end Component

namespace Form

theorem validate_eq_nil_iff {f : Form} :
    f.validate = [] ↔ ∀ c ∈ f.components, c.visible = true → c.kind.isDisplayOnly = false →
      c.faults (f.value? c.name) = [] := by
  simp only [validate, List.flatMap_eq_nil_iff, List.map_eq_nil_iff, List.mem_filter,
    Bool.and_eq_true, Bool.not_eq_true', and_imp]

section Plain

variable {t : NodeType} (hplain : t.IsPlain) (id : String) (values : Parameters)

include hplain

theorem components_plain : (ofNode id t values).components =
    t.parameters.map NodeType.plainComponent := by
  have hgroups : (ofNode id t values).groups = t.plainGroups := NodeType.groups_of_isPlain hplain
  rw [components, hgroups, NodeType.plainGroups]
  split
  · rename_i hnone
    rw [List.isEmpty_iff.mp hnone]
    rfl
  · simp

theorem component?_plain (name : String) : (ofNode id t values).component? name =
    (t.parameter? name).map NodeType.plainComponent := by
  rw [component?, components_plain hplain, List.find?_map, NodeType.parameter?]
  congr 2
  funext p
  simp only [Function.comp_apply, NodeType.kind_plainComponent, Bool.not_false, Bool.and_true]
  rfl

theorem value?_plain (hnames : (t.parameters.map (·.name)).Nodup) {p : Parameter}
    (hp : p ∈ t.parameters) :
    (ofNode id t values).value? p.name = (values.get? p.name).or p.default? := by
  rw [value?, component?_plain hplain, NodeType.parameter?_of_mem hnames hp]
  rfl

theorem not_blank_of_validate (hnames : (t.parameters.map (·.name)).Nodup)
    (hclean : (ofNode id t values).validate = []) {p : Parameter} (hp : p ∈ t.parameters)
    (hrequired : p.required = true) : ¬ Json.Blank ((values.get? p.name).or p.default?) := by
  have hfaults : (NodeType.plainComponent p).faults ((ofNode id t values).value? p.name) = [] := by
    refine validate_eq_nil_iff.mp hclean (NodeType.plainComponent p) ?_ rfl
      (NodeType.kind_plainComponent p)
    rw [components_plain hplain]
    exact List.mem_map_of_mem hp
  rw [value?_plain hplain id values hnames hp] at hfaults
  exact Component.not_blank_of_faults_eq_nil hfaults hrequired

end Plain

end Form

namespace Node

def holding (n : Node) (values : Parameters) : Node := { n with parameters := values }

section Clean

variable {n : Node} (hplain : n.type.IsPlain) (hnames : (n.type.parameters.map (·.name)).Nodup)
  (hclean : (Form.ofNode n.id n.type n.parameters).validate = [])

include hplain hnames hclean

theorem not_lacks_of_validate (r : Rules) : ∀ p ∈ n.type.parameters, ¬ n.Lacks r p := by
  rintro p hp ⟨hrequired, hblank, -, hdefault⟩
  refine Form.not_blank_of_validate hplain n.id n.parameters hnames hclean hp hrequired ?_
  cases hvalue : n.parameters.get? p.name with
  | some value =>
      rw [hvalue] at hblank
      exact hblank
  | none =>
      -- Without a value the form shows the default, and a null one is as blank as none.
      rw [Option.none_or]
      exact hdefault.elim .inl fun hnull => .inr (.inl hnull)

theorem exists_toPlan_of_validate (r : Rules) : ∃ planned, n.toPlan r = .ok planned := by
  obtain ⟨planned, hplanned, -⟩ :=
    toPlan_eq_ok hnames (not_lacks_of_validate hplain hnames hclean r)
  exact ⟨planned, hplanned⟩

end Clean

end Node

namespace Graph

theorem WellFormed.plan_ne_missingParameter {g : Graph} (hg : g.WellFormed) {n : Node}
    (hn : n ∈ g.nodes) {r : Rules} (hplanned : ∃ planned, n.toPlan r = .ok planned)
    (name parameter : String) : g.plan r ≠ .error (.missingParameter n.id name parameter) := by
  intro hplan
  rcases plan_eq_error (List.ne_nil_of_mem hn) hplan with hfault | ⟨_, _, ⟨⟩⟩
  obtain ⟨before, m, after, hsplit, -, hm⟩ := Plan.nodesOf_eq_error_iff.mp hfault
  obtain ⟨_, hreason⟩ := Node.toPlan_eq_error hm
  obtain ⟨hid, -, -⟩ := Rejection.missingParameter.inj hreason
  have hmem : m ∈ g.nodes := by simp [hsplit]
  obtain rfl : n = m := List.inj_on_of_nodup_map hg.distinct hn hmem hid
  obtain ⟨planned, hok⟩ := hplanned
  rw [hm] at hok
  cases hok

/-- Values that the plain form of a node lets pass without a violation are all that the node needs:
once they are committed to it, planning never reports that it is missing a parameter, whatever the
rules and whatever the rest of the graph. -/
theorem Reachable.clean_form_planned {g : Graph} (h : g.Reachable) {n : Node} (hn : n ∈ g.nodes)
    (hplain : n.type.IsPlain) (hnames : (n.type.parameters.map (·.name)).Nodup)
    {values : Parameters} (hclean : (Form.ofNode n.id n.type values).validate = [])
    (staging : Staging) :
    ∃ saved after, staging.commit? g n.id values = some (saved, after) ∧
      n.holding values ∈ after.nodes ∧
      ∀ r : Rules, (∃ planned, (n.holding values).toPlan r = .ok planned) ∧
        ∀ name parameter, after.plan r ≠ .error (.missingParameter n.id name parameter) := by
  have hg := h.wellFormed
  have hcommit := staging.commit?_of_mem (mem_nodeIds_of_mem hn) values
  obtain ⟨hreplace, -⟩ := Staging.commit?_eq_some hcommit
  have hheld := mem_change hg.distinct hn (fun m => m.holding values) (fun _ => rfl) hreplace
  have hplanned := Node.exists_toPlan_of_validate (n := n.holding values) hplain hnames hclean
  refine ⟨_, _, hcommit, hheld, fun r => ⟨hplanned r, ?_⟩⟩
  exact (hg.change hreplace fun _ => rfl).plan_ne_missingParameter hheld (hplanned r)

def unasked : Node where
  id := "q"
  type := question
  position := .origin
  parameters := .ofList [("note", .bool true), ("query", .str "")]

theorem unasked_clean_form_planned :
    exchange.Reachable ∧ unasked ∈ exchange.nodes ∧ unasked.type.IsPlain ∧
    (unasked.type.parameters.map (·.name)).Nodup ∧
    (Form.ofNode unasked.id unasked.type (.ofList [("query", .str "Why?")])).validate = [] ∧
    ∃ saved after, Staging.commit? {} exchange unasked.id (.ofList [("query", .str "Why?")]) =
        some (saved, after) ∧
      unasked.holding (.ofList [("query", .str "Why?")]) ∈ after.nodes ∧
      ∀ name parameter,
        after.plan .standard ≠ .error (.missingParameter unasked.id name parameter) := by
  have hreachable : exchange.Reachable := .ofParts _ _
  have hn : unasked ∈ exchange.nodes := by decide +kernel
  have hplain : unasked.type.IsPlain := nofun
  have hnames : (unasked.type.parameters.map (·.name)).Nodup := by decide
  have hclean : (Form.ofNode unasked.id unasked.type
      (.ofList [("query", .str "Why?")])).validate = [] := by
    decide +kernel
  obtain ⟨saved, after, hcommit, hheld, hplanned⟩ :=
    hreachable.clean_form_planned hn hplain hnames hclean {}
  exact ⟨hreachable, hn, hplain, hnames, hclean, saved, after, hcommit, hheld,
    (hplanned .standard).2⟩

end Graph

end NodeCanvas
